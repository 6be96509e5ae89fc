import ChainParams.Proofs.EnrollmentOrder
import ChainParams.Proofs.KeyRemapping

/-!
# KnownNetworks — a registry as the list of the networks in it

The networks of an accepted configuration follow the built-in ones in the registry, and none of
either is refused (`registry_of_enroll_ok`). Every answer is then one about a list of networks, and
where a private key identifier leads is decided by the last network that has it (`LeadsTo`,
`publicIdOf_known_iff`). Every identifier that a known network has leads to some other
(`exists_leadsTo_iff`).
-/

namespace ChainParams

@[simp] theorem Network.name_parameters (n : Network) : n.parameters.name = n.name := by
  cases n <;> rfl

theorem mem_catalog_iff {p : Parameters} : p ∈ catalog ↔ ∃ n : Network, n.parameters = p := by
  simp [catalog, Network.mem_all]

/-- Some network of `catalog ++ cs.map parameters` satisfies `has` just if a built-in one or one of
`cs` does. -/
theorem exists_known_iff {cs : List CustomNetwork} {has : Parameters → Prop} :
    (∃ p ∈ catalog ++ cs.map CustomNetwork.parameters, has p) ↔
      (∃ n : Network, has n.parameters) ∨ ∃ c ∈ cs, has c.parameters := by
  constructor
  · rintro ⟨p, hp, hhas⟩
    rcases List.mem_append.1 hp with hbuiltin | hcustom
    · rcases mem_catalog_iff.1 hbuiltin with ⟨n, rfl⟩
      exact Or.inl ⟨n, hhas⟩
    · rcases List.mem_map.1 hcustom with ⟨c, hc, rfl⟩
      exact Or.inr ⟨c, hc, hhas⟩
  · rintro (⟨n, hhas⟩ | ⟨c, hc, hhas⟩)
    · exact ⟨n.parameters, List.mem_append_left _ (mem_catalog_iff.2 ⟨n, rfl⟩), hhas⟩
    · exact ⟨c.parameters, List.mem_append_right _ (List.mem_map_of_mem hc), hhas⟩

/-! ## Where a private key identifier leads -/

/-- A built-in network or one of `cs` has `key` as its `hdPrivateId`. -/
def KnownKey (cs : List CustomNetwork) (key : ExtendedKeyId) : Prop :=
  (∃ n : Network, n.parameters.hdPrivateId = key) ∨ ∃ c ∈ cs, c.hdPrivateId = key

/-- The last network of `cs` with `key` has `id` as its `hdPublicId`; or no network of `cs` has
`key`, and a built-in one has both. -/
def LeadsTo (cs : List CustomNetwork) (key id : ExtendedKeyId) : Prop :=
  (∃ earlier c later, cs = earlier ++ c :: later ∧ c.hdPrivateId = key ∧
      (∀ d ∈ later, d.hdPrivateId ≠ key) ∧ c.hdPublicId = id) ∨
    ((∀ c ∈ cs, c.hdPrivateId ≠ key) ∧
      ∃ n : Network, n.parameters.hdPrivateId = key ∧ n.parameters.hdPublicId = id)

/-- If some network of `cs` has `key`, then `cs` can be split at the last one. -/
theorem exists_last_with_key {cs : List CustomNetwork} {key : ExtendedKeyId}
    (h : ∃ c ∈ cs, c.hdPrivateId = key) :
    ∃ earlier c later, cs = earlier ++ c :: later ∧ c.hdPrivateId = key ∧
      ∀ d ∈ later, d.hdPrivateId ≠ key := by
  cases hlast : cs.findRev? fun c => c.hdPrivateId = key with
  | none =>
      rcases h with ⟨c, hc, hkey⟩
      have hnone : ∀ d ∈ cs, d.hdPrivateId ≠ key := by
        simpa using hlast
      exact absurd hkey (hnone c hc)
  | some c =>
      simp only [Registry.findRev?_eq_some_iff_append, decide_eq_true_eq] at hlast
      rcases hlast with ⟨hkey, earlier, later, hsplit, hlater⟩
      exact ⟨earlier, c, later, hsplit, hkey, hlater⟩

/-- Some `id` with `LeadsTo cs key id` exists just if `KnownKey cs key`: either a network of `cs` is
the last with `key`, or a built-in one has it and none of `cs` does. -/
theorem exists_leadsTo_iff {cs : List CustomNetwork} {key : ExtendedKeyId} :
    (∃ id, LeadsTo cs key id) ↔ KnownKey cs key := by
  constructor
  · rintro ⟨id, ⟨earlier, c, later, rfl, hkey, -, -⟩ | ⟨-, n, hkey, -⟩⟩
    · exact Or.inr ⟨c, List.mem_append_right earlier List.mem_cons_self, hkey⟩
    · exact Or.inl ⟨n, hkey⟩
  · intro hknown
    by_cases hcustom : ∃ c ∈ cs, c.hdPrivateId = key
    · rcases exists_last_with_key hcustom with ⟨earlier, c, later, hsplit, hkey, hlast⟩
      exact ⟨c.hdPublicId, Or.inl ⟨earlier, c, later, hsplit, hkey, hlast, rfl⟩⟩
    · rcases hknown with ⟨n, hkey⟩ | hknown
      · have hnone : ∀ c ∈ cs, c.hdPrivateId ≠ key := by
          intro c hc hsame
          exact hcustom ⟨c, hc, hsame⟩
        exact ⟨n.parameters.hdPublicId, Or.inr ⟨hnone, n, hkey, rfl⟩⟩
      · exact absurd hknown hcustom

namespace Registry

variable {r : Registry} {cs : List CustomNetwork} {ps : List Parameters}

/-! ## Accepted configurations -/

theorem accepted_of_not_blocked (h : ∀ k, ¬ r.Blocked cs k) :
    r.accepted (cs.map CustomNetwork.parameters) = cs.map CustomNetwork.parameters := by
  induction cs generalizing r with
  | nil =>
      rfl
  | cons c cs ih =>
      have hfirst := fresh_of_not_blocked (h 0)
      have hrest : ∀ k, ¬ (r.enter c.parameters).Blocked cs k := by
        intro k hk
        exact h (k + 1) (blocked_succ_iff.2 hk)
      rw [List.map_cons, accepted_cons_of_fresh hfirst, ih hrest]

theorem accepted_of_enroll_ok (h : (r.enroll cs).result = .ok ps) : r.accepted ps = ps := by
  rcases enroll_ok h with ⟨rfl, _⟩
  exact accepted_of_not_blocked (not_blocked_of_enroll_ok h)

theorem accepted_catalog : empty.accepted catalog = catalog := by
  refine accepted_eq_self_iff.2 ⟨?_, by decide +kernel⟩
  intro p _
  exact isRegistered_empty

theorem builtin_eq_enterAll : builtin = empty.enterAll catalog := by
  rw [builtin, registerAll_eq_enterAll, accepted_catalog]

/-- If `builtin.enroll cs` accepts `cs`, its registry is `empty` with the networks of `catalog` and
then `ps` entered. -/
theorem registry_of_enroll_ok (h : (builtin.enroll cs).result = .ok ps) :
    (builtin.enroll cs).registry = empty.enterAll (catalog ++ ps) := by
  rcases enroll_ok h with ⟨_, hregistry⟩
  rw [hregistry, registerAll_eq_enterAll, accepted_of_enroll_ok h, builtin_eq_enterAll,
    enterAll_append]

/-- If `builtin.enroll cs` accepts `cs`, no two networks of `catalog ++ ps` have the same
`networkMagic`. -/
theorem nodup_known (h : (builtin.enroll cs).result = .ok ps) :
    ((catalog ++ ps).map Parameters.networkMagic).Nodup := by
  have hall : empty.accepted (catalog ++ ps) = catalog ++ ps := by
    rw [accepted_append, accepted_catalog]
    exact congrArg (catalog ++ ·) (accepted_of_enroll_ok h)
  exact (accepted_eq_self_iff.1 hall).2

/-! ## Key identifiers -/

/-- If `id` leads to `k` in `r`, and every network of `ps` with `id` has `k` as its `hdPublicId`,
then `id` leads to `k` after `enterAll ps`. -/
theorem publicIdOf_enterAll_of_agree {id : List UInt8} {k : ExtendedKeyId}
    (hbefore : r.publicIdOf id = .ok k)
    (hagree : ∀ q ∈ ps, q.hdPrivateId.bytes = id → q.hdPublicId = k) :
    (r.enterAll ps).publicIdOf id = .ok k := by
  induction ps generalizing r with
  | nil =>
      exact hbefore
  | cons p ps ih =>
      have hstep : (r.enter p).publicIdOf id = .ok k := by
        rw [publicIdOf_enter]
        by_cases hp : p.hdPrivateId.bytes = id
        · rw [if_pos hp, hagree p List.mem_cons_self hp]
        · rw [if_neg hp, hbefore]
      refine ih hstep ?_
      intro q hq
      exact hagree q (List.mem_cons_of_mem p hq)

/-- After `enterAll ps`, `publicIdOf id` has an answer just if it had one in `r` or some network of
`ps` has `id`. -/
theorem exists_publicIdOf_enterAll_iff {id : List UInt8} :
    (∃ k, (r.enterAll ps).publicIdOf id = .ok k) ↔
      (∃ k, r.publicIdOf id = .ok k) ∨ ∃ p ∈ ps, p.hdPrivateId.bytes = id := by
  refine enterAll_iff (fun r => ∃ k, r.publicIdOf id = .ok k) ?_ r ps
  intro r p
  rw [publicIdOf_enter]
  by_cases hp : p.hdPrivateId.bytes = id
  · simp [hp]
  · simp [hp]

/-- The `hdPrivateId` of `p` leads to the `hdPublicId` of `p`, unless a later network with the same
`hdPrivateId` has another. -/
theorem publicIdOf_own {p : Parameters} {earlier later : List Parameters}
    (hagree : ∀ q ∈ later, q.hdPrivateId = p.hdPrivateId → q.hdPublicId = p.hdPublicId) :
    (r.enterAll (earlier ++ p :: later)).publicIdOf p.hdPrivateId.bytes = .ok p.hdPublicId := by
  have hentered : ((r.enterAll earlier).enter p).publicIdOf p.hdPrivateId.bytes =
      .ok p.hdPublicId := by
    rw [publicIdOf_enter, if_pos rfl]
  have hlater : (((r.enterAll earlier).enter p).enterAll later).publicIdOf p.hdPrivateId.bytes =
      .ok p.hdPublicId := by
    refine publicIdOf_enterAll_of_agree hentered ?_
    intro q hq hid
    exact hagree q hq (ExtendedKeyId.bytes_inj.1 hid)
  rw [enterAll_append]
  exact hlater

/-! ## The registry of the known networks -/

variable {b : UInt8} {key id : ExtendedKeyId}

/-- The registry of `catalog` and then the networks of `cs`, none of them refused. -/
def known (cs : List CustomNetwork) : Registry :=
  empty.enterAll (catalog ++ cs.map CustomNetwork.parameters)

theorem registry_eq_known (h : (builtin.enroll cs).result = .ok ps) :
    (builtin.enroll cs).registry = known cs := by
  have hnetworks : ps = cs.map CustomNetwork.parameters := (enroll_ok h).1
  rw [registry_of_enroll_ok h, hnetworks, known]

theorem isPubkeyHashPrefix_known :
    (known cs).isPubkeyHashPrefix b = true ↔
      (∃ n : Network, n.parameters.pubkeyHashPrefix = b) ∨ ∃ c ∈ cs, c.pubkeyHashPrefix = b := by
  rw [known, isPubkeyHashPrefix_enterAll, exists_known_iff]
  simp [CustomNetwork.parameters]

theorem isScriptHashPrefix_known :
    (known cs).isScriptHashPrefix b = true ↔
      (∃ n : Network, n.parameters.scriptHashPrefix = b) ∨ ∃ c ∈ cs, c.scriptHashPrefix = b := by
  rw [known, isScriptHashPrefix_enterAll, exists_known_iff]
  simp [CustomNetwork.parameters]

theorem isAztecPrefix_known :
    (known cs).isAztecPrefix b = true ↔
      b ≠ 0 ∧ ((∃ n : Network, n.parameters.aztecPrefix = b) ∨ ∃ c ∈ cs, c.aztecPrefix = b) := by
  rw [known, isAztecPrefix_enterAll, exists_known_iff]
  simp [CustomNetwork.parameters]

theorem exists_knownKey_of_publicIdOf {bytes : List UInt8}
    (h : (known cs).publicIdOf bytes = .ok id) : ∃ key, key.bytes = bytes ∧ KnownKey cs key := by
  have hknown : ∃ id, (known cs).publicIdOf bytes = .ok id := ⟨id, h⟩
  rw [known, exists_publicIdOf_enterAll_iff, exists_known_iff] at hknown
  rcases hknown with ⟨k, hempty⟩ | ⟨n, hn⟩ | ⟨c, hc, hbytes⟩
  · rw [publicIdOf_empty] at hempty
    cases hempty
  · exact ⟨n.parameters.hdPrivateId, hn, Or.inl ⟨n, rfl⟩⟩
  · exact ⟨c.hdPrivateId, hbytes, Or.inr ⟨c, hc, rfl⟩⟩

/-- Any two networks of `catalog` with the same `hdPrivateId` have the same `hdPublicId`. -/
theorem hdPublicId_catalog (n : Network) :
    ∀ p ∈ catalog, p.hdPrivateId = n.parameters.hdPrivateId →
      p.hdPublicId = n.parameters.hdPublicId := by
  cases n <;> decide +kernel

theorem publicIdOf_of_leadsTo (h : LeadsTo cs key id) :
    (known cs).publicIdOf key.bytes = .ok id := by
  rcases h with ⟨earlier, c, later, rfl, rfl, hlast, rfl⟩ | ⟨hnone, n, rfl, rfl⟩
  · have hsplit : catalog ++ (earlier ++ c :: later).map CustomNetwork.parameters =
        (catalog ++ earlier.map CustomNetwork.parameters) ++
          c.parameters :: later.map CustomNetwork.parameters := by
      simp
    have hagree : ∀ q ∈ later.map CustomNetwork.parameters,
        q.hdPrivateId = c.parameters.hdPrivateId → q.hdPublicId = c.parameters.hdPublicId := by
      intro q hq hkey
      rcases List.mem_map.1 hq with ⟨d, hd, rfl⟩
      exact absurd hkey (hlast d hd)
    rw [known, hsplit]
    exact publicIdOf_own hagree
  · have hbuiltin : n.parameters ∈ catalog := mem_catalog_iff.2 ⟨n, rfl⟩
    rcases List.append_of_mem hbuiltin with ⟨earlier, later, hcatalog⟩
    have hsplit : catalog ++ cs.map CustomNetwork.parameters =
        earlier ++ n.parameters :: (later ++ cs.map CustomNetwork.parameters) := by
      rw [hcatalog, List.append_assoc, List.cons_append]
    -- What is registered after it is built in as well, or has another private key identifier.
    have hagree : ∀ q ∈ later ++ cs.map CustomNetwork.parameters,
        q.hdPrivateId = n.parameters.hdPrivateId → q.hdPublicId = n.parameters.hdPublicId := by
      intro q hq hkey
      rcases List.mem_append.1 hq with hlater | hcustom
      · have hq : q ∈ catalog := by
          rw [hcatalog]
          exact List.mem_append_right earlier (List.mem_cons_of_mem _ hlater)
        exact hdPublicId_catalog n q hq hkey
      · rcases List.mem_map.1 hcustom with ⟨c, hc, rfl⟩
        exact absurd hkey (hnone c hc)
    rw [known, hsplit]
    exact publicIdOf_own hagree

/-- In `known cs`, `publicIdOf` answers just the bytes of known keys, each with the `id` that
`LeadsTo` gives. -/
theorem publicIdOf_known_iff {bytes : List UInt8} :
    (known cs).publicIdOf bytes = .ok id ↔ ∃ key, key.bytes = bytes ∧ LeadsTo cs key id := by
  constructor
  · intro h
    rcases exists_knownKey_of_publicIdOf h with ⟨key, rfl, hknown⟩
    rcases exists_leadsTo_iff.2 hknown with ⟨other, hleads⟩
    have hsame := h.symm.trans (publicIdOf_of_leadsTo hleads)
    cases hsame
    exact ⟨key, rfl, hleads⟩
  · rintro ⟨key, rfl, hleads⟩
    exact publicIdOf_of_leadsTo hleads

end Registry
end ChainParams
