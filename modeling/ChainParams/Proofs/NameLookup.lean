import ChainParams.Proofs.KnownNetworks

/-!
# NameLookup — a network by its name and by its bytes

A name leads to a built-in network, or else to the first network of the configuration that has it.
Main statement: `names_and_bytes_agree`, by which a network that some name leads to is one that the
registry knows by its magic, its prefixes and its key identifier.
-/

namespace ChainParams

variable {customs : List Parameters} {name : String} {p : Parameters}

/-! ## By name -/

/-- The list `customs` has `p` with this `name`, and no network before `p` has it. -/
def FirstNamed (customs : List Parameters) (name : String) (p : Parameters) : Prop :=
  ∃ (i : Nat) (h : i < customs.length), customs[i] = p ∧ p.name = name ∧
    ∀ (j : Nat) (hj : j < i), customs[j].name ≠ name

theorem findNetwork_eq_ok_iff :
    findNetwork customs name = .ok p ↔ findNetwork? customs name = some p := by
  rw [findNetwork]
  cases findNetwork? customs name with
  | none =>
      simp
  | some q =>
      simp

theorem findNetwork_eq_error_iff :
    findNetwork customs name = .error ⟨"unknown network " ++ Text.quoted name, none⟩ ↔
      findNetwork? customs name = none := by
  rw [findNetwork]
  cases findNetwork? customs name with
  | none =>
      simp
  | some q =>
      simp

theorem findNetwork?_builtin (customs : List Parameters) (n : Network) :
    findNetwork? customs n.name = some n.parameters := by
  simp [findNetwork?, Network.ofName?_name]

theorem findNetwork?_of_not_builtin (hname : ¬ ∃ n : Network, n.name = name) :
    findNetwork? customs name = customs.find? fun p => p.name == name := by
  cases hbuiltin : Network.ofName? name with
  | none =>
      simp [findNetwork?, hbuiltin]
  | some n =>
      exact absurd ⟨n, Network.name_of_ofName? hbuiltin⟩ hname

theorem find?_name_eq_some_iff :
    (customs.find? fun p => p.name == name) = some p ↔ FirstNamed customs name p := by
  rw [List.find?_eq_some_iff_getElem]
  constructor
  · rintro ⟨hname, i, hi, hp, hearlier⟩
    refine ⟨i, hi, hp, by simpa using hname, ?_⟩
    intro j hj
    simpa using hearlier j hj
  · rintro ⟨i, hi, hp, hname, hearlier⟩
    refine ⟨by simpa using hname, i, hi, hp, ?_⟩
    intro j hj
    simpa using hearlier j hj

/-- The network found for `name` is the built-in one of this name, or else the `FirstNamed` of
`customs`. -/
theorem findNetwork?_eq_some_iff :
    findNetwork? customs name = some p ↔
      (∃ n : Network, n.name = name ∧ n.parameters = p) ∨
        ((¬ ∃ n : Network, n.name = name) ∧ FirstNamed customs name p) := by
  by_cases hname : ∃ n : Network, n.name = name
  · rcases hname with ⟨n, rfl⟩
    -- No two built-in networks have the same name.
    have honly : ∀ m : Network, m.name = n.name → m = n := by
      intro m hm
      have hsame := Network.ofName?_name m
      rw [hm, Network.ofName?_name] at hsame
      exact (Option.some.inj hsame).symm
    rw [findNetwork?_builtin]
    constructor
    · intro hp
      exact Or.inl ⟨n, rfl, Option.some.inj hp⟩
    · rintro (⟨m, hm, rfl⟩ | ⟨hnone, _⟩)
      · rw [honly m hm]
      · exact absurd ⟨n, rfl⟩ hnone
  · rw [findNetwork?_of_not_builtin hname, find?_name_eq_some_iff]
    constructor
    · intro hfirst
      exact Or.inr ⟨hname, hfirst⟩
    · rintro (⟨n, hn, _⟩ | ⟨_, hfirst⟩)
      · exact absurd ⟨n, hn⟩ hname
      · exact hfirst

theorem findNetwork?_eq_none_iff :
    findNetwork? customs name = none ↔
      (¬ ∃ n : Network, n.name = name) ∧ ∀ p ∈ customs, p.name ≠ name := by
  by_cases hname : ∃ n : Network, n.name = name
  · rcases hname with ⟨n, rfl⟩
    rw [findNetwork?_builtin]
    constructor
    · intro hnone
      cases hnone
    · rintro ⟨hnone, _⟩
      exact absurd ⟨n, rfl⟩ hnone
  · rw [findNetwork?_of_not_builtin hname]
    simp [hname]

theorem name_of_findNetwork? (h : findNetwork? customs name = some p) : p.name = name := by
  rcases findNetwork?_eq_some_iff.1 h with ⟨n, hn, rfl⟩ | ⟨_, _, _, _, hp, _⟩
  · rw [Network.name_parameters, hn]
  · exact hp

/-- For no other `name` than `n.name` is `n.parameters` found. -/
theorem findNetwork?_eq_builtin_iff {n : Network} :
    findNetwork? customs name = some n.parameters ↔ n.name = name := by
  constructor
  · intro h
    rw [← Network.name_parameters]
    exact name_of_findNetwork? h
  · rintro rfl
    exact findNetwork?_builtin customs n

theorem mem_known_of_findNetwork? (h : findNetwork? customs name = some p) :
    p ∈ catalog ++ customs := by
  rcases findNetwork?_eq_some_iff.1 h with ⟨n, _, hn⟩ | ⟨_, i, hi, rfl, _⟩
  · exact List.mem_append_left customs (mem_catalog_iff.2 ⟨n, hn⟩)
  · exact List.mem_append_right catalog (List.getElem_mem hi)

/-- If `customs` has no repetitions, `customs[i]` is found under its own name just if no earlier
network has that name. -/
theorem findNetwork?_own_name_iff (hnodup : customs.Nodup) {i : Nat} (hi : i < customs.length)
    (hname : ¬ ∃ n : Network, n.name = customs[i].name) :
    findNetwork? customs customs[i].name = some customs[i] ↔
      ∀ (j : Nat) (hj : j < i), customs[j].name ≠ customs[i].name := by
  rw [findNetwork?_of_not_builtin hname, find?_name_eq_some_iff]
  constructor
  · -- The network that is found can only stand at `i`, as it stands nowhere else.
    rintro ⟨k, hk, hsame, _, hearlier⟩
    have hki : k = i := (List.Nodup.getElem_inj_iff hnodup).1 hsame
    subst hki
    exact hearlier
  · intro hearlier
    exact ⟨i, hi, rfl, rfl, hearlier⟩

/-! ## By bytes -/

namespace Registry

variable {known : List Parameters}

/-- The magic of `p`, its two address prefixes, its private key identifier, and its Aztec prefix
unless that is zero, are all known to `r`. -/
def Knows (r : Registry) (p : Parameters) : Prop :=
  r.isRegistered p.networkMagic = true ∧
  r.isPubkeyHashPrefix p.pubkeyHashPrefix = true ∧
  r.isScriptHashPrefix p.scriptHashPrefix = true ∧
  (r.isAztecPrefix p.aztecPrefix = true ↔ p.aztecPrefix ≠ 0) ∧
  ∃ k, r.publicIdOf p.hdPrivateId.bytes = .ok k

theorem knows_enterAll (hp : p ∈ known) : (empty.enterAll known).Knows p := by
  refine ⟨?_, ?_, ?_, ?_, exists_publicIdOf_enterAll_iff.2 (Or.inr ⟨p, hp, rfl⟩)⟩
  · exact isRegistered_enterAll.2 (Or.inr ⟨p, hp, rfl⟩)
  · exact isPubkeyHashPrefix_enterAll.2 (Or.inr ⟨p, hp, rfl⟩)
  · exact isScriptHashPrefix_enterAll.2 (Or.inr ⟨p, hp, rfl⟩)
  · rw [isAztecPrefix_enterAll, isAztecPrefix_empty]
    constructor
    · rintro (hempty | ⟨hbyte, _⟩)
      · cases hempty
      · exact hbyte
    · intro hbyte
      exact Or.inr ⟨hbyte, p, hp, rfl⟩

end Registry

/-! ## Main statement -/

/-- Let `builtin.enroll cs` accept `cs`. Then `findNetwork` gives the built-in network of a built-in
name, the `FirstNamed` of the custom networks for any other name, and an error that quotes the name
if there is none; so `customs[i]` is found under its own name just if no earlier network has it.
Each `p` that is found is in the registry, which `Knows` it, and its `hdPrivateId` leads to its
`hdPublicId` unless a network that is registered later has the same `hdPrivateId` and another
`hdPublicId`. -/
theorem names_and_bytes_agree (cs : List CustomNetwork) (customs : List Parameters)
    (h : (Registry.builtin.enroll cs).result = .ok customs) :
    customs = cs.map CustomNetwork.parameters ∧
    (∀ name (n : Network), findNetwork customs name = .ok n.parameters ↔ n.name = name) ∧
    (∀ name p, (¬ ∃ n : Network, n.name = name) →
      (findNetwork customs name = .ok p ↔ FirstNamed customs name p)) ∧
    (∀ name, findNetwork customs name = .error ⟨"unknown network " ++ Text.quoted name, none⟩ ↔
      (¬ ∃ n : Network, n.name = name) ∧ ∀ p ∈ customs, p.name ≠ name) ∧
    (∀ (i : Nat) (hi : i < customs.length),
      findNetwork customs customs[i].name = .ok customs[i] ↔
        ∀ (j : Nat) (hj : j < i), customs[j].name ≠ customs[i].name) ∧
    (∀ name p, findNetwork customs name = .ok p →
      p ∈ catalog ++ customs ∧
      (Registry.builtin.enroll cs).registry.Knows p ∧
      ∀ earlier later, catalog ++ customs = earlier ++ p :: later →
        (∀ q ∈ later, q.hdPrivateId = p.hdPrivateId → q.hdPublicId = p.hdPublicId) →
        (Registry.builtin.enroll cs).registry.publicIdOf p.hdPrivateId.bytes =
          .ok p.hdPublicId) := by
  have hcustoms := (Registry.enroll_ok h).1
  have hregistry := Registry.registry_of_enroll_ok h
  have hnodup : customs.Nodup :=
    (List.nodup_append.1 (Registry.nodup_known h).of_map).2.1
  refine ⟨hcustoms, ?_, ?_, ?_, ?_, ?_⟩
  · intro name n
    exact findNetwork_eq_ok_iff.trans findNetwork?_eq_builtin_iff
  · intro name p hname
    rw [findNetwork_eq_ok_iff, findNetwork?_of_not_builtin hname]
    exact find?_name_eq_some_iff
  · intro name
    exact findNetwork_eq_error_iff.trans findNetwork?_eq_none_iff
  · intro i hi
    -- A network with a built-in name would have been turned down.
    have hname : ¬ ∃ n : Network, n.name = customs[i].name := by
      subst hcustoms
      intro hbuiltin
      have hi' : i < cs.length := by simpa using hi
      exact Registry.not_blocked_of_enroll_ok h i ⟨hi', Or.inl (by simpa using hbuiltin)⟩
    exact findNetwork_eq_ok_iff.trans (findNetwork?_own_name_iff hnodup hi hname)
  · intro name p hp
    have hknown := mem_known_of_findNetwork? (findNetwork_eq_ok_iff.1 hp)
    rw [hregistry]
    refine ⟨hknown, Registry.knows_enterAll hknown, ?_⟩
    intro earlier later hsplit hagree
    rw [hsplit]
    exact Registry.publicIdOf_own hagree

/-- The sample network, and a second one with the same `name` and `hdPrivateId`. -/
def namesakes : List CustomNetwork :=
  Config.sample.customNetworks ++ Config.sample.customNetworks.map fun c =>
    { c with magic := ⟨0xfeedbef0⟩, hdPublicId := ⟨0x02, 0xfa, 0xca, 0xfe⟩ }

/-- Of `namesakes` the first is found, and its bytes are registered. The second is out of reach. -/
theorem first_namesake_found :
    (Registry.builtin.enroll namesakes).result =
      .ok (namesakes.map CustomNetwork.parameters) ∧
    findNetwork (namesakes.map CustomNetwork.parameters) "devnet" =
      .ok (namesakes.map CustomNetwork.parameters)[0] ∧
    findNetwork (namesakes.map CustomNetwork.parameters) "devnet" ≠
      .ok (namesakes.map CustomNetwork.parameters)[1] ∧
    (Registry.builtin.enroll namesakes).registry.Knows
      (namesakes.map CustomNetwork.parameters)[0] := by
  have hok : (Registry.builtin.enroll namesakes).result =
      .ok (namesakes.map CustomNetwork.parameters) :=
    Registry.enroll_builtin_ok (by decide) (by decide +kernel) (by decide)
  rcases names_and_bytes_agree namesakes _ hok with ⟨_, _, _, _, hown, hfound⟩
  have hfirst : findNetwork (namesakes.map CustomNetwork.parameters) "devnet" =
      .ok (namesakes.map CustomNetwork.parameters)[0] := by
    refine (hown 0 (by decide)).2 ?_
    intro j hj
    cases hj
  refine ⟨hok, hfirst, ?_, (hfound _ _ hfirst).2.1⟩
  intro hsecond
  exact (hown 1 (by decide)).1 hsecond 0 (by decide) rfl

end ChainParams
