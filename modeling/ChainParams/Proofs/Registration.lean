import ChainParams.Registry

/-!
# Registration — what offering networks does to a registry

A registration either enters a network or leaves the registry alone (`register_cases`). A run of
registrations therefore comes down to entering those networks that were accepted, in their order
(`registerAll_eq_enterAll`), and each question to the registry is answered from what it held before
and from this list.
-/

namespace ChainParams
namespace Registry

variable {r : Registry} {p : Parameters}

/-! ## The empty registry -/

@[simp] theorem isRegistered_empty {m : NetworkMagic} : empty.isRegistered m = false := by
  simp [isRegistered, empty]

@[simp] theorem isPubkeyHashPrefix_empty {b : UInt8} : empty.isPubkeyHashPrefix b = false := by
  simp [isPubkeyHashPrefix, empty]

@[simp] theorem isScriptHashPrefix_empty {b : UInt8} : empty.isScriptHashPrefix b = false := by
  simp [isScriptHashPrefix, empty]

@[simp] theorem isAztecPrefix_empty {b : UInt8} : empty.isAztecPrefix b = false := by
  simp [isAztecPrefix, empty]

@[simp] theorem publicIdOf_empty {id : List UInt8} :
    empty.publicIdOf id = .error .unknownKeyId := by
  simp [publicIdOf, empty]

@[simp] theorem size_empty : empty.size = 0 := by
  simp [size, empty]

/-! ## One registration -/

theorem register_of_registered (h : r.isRegistered p.networkMagic = true) :
    r.register p =
      { registry := r
        result := .error (.duplicateNetwork p.networkMagic)
        notice? := some (.alreadyRegistered p.name p.networkMagic) } := by
  simp [register, h]

theorem register_of_fresh (h : r.isRegistered p.networkMagic = false) :
    r.register p =
      { registry := r.enter p
        result := .ok ()
        notice? := r.remapping? p } := by
  simp [register, h]

/-- What `register` does: if the magic of `p` is taken, it refuses `p` and leaves `r` as it is;
otherwise it accepts `p`, and the registry is `r.enter p`. -/
theorem register_cases (r : Registry) (p : Parameters) :
    (r.isRegistered p.networkMagic = true ∧ (r.register p).registry = r ∧
      (r.register p).result = .error (.duplicateNetwork p.networkMagic) ∧
      (r.register p).notice? = some (.alreadyRegistered p.name p.networkMagic)) ∨
    (r.isRegistered p.networkMagic = false ∧ (r.register p).registry = r.enter p ∧
      (r.register p).result = .ok () ∧ (r.register p).notice? = r.remapping? p) := by
  cases h : r.isRegistered p.networkMagic with
  | true =>
      left
      simp [register_of_registered h]
  | false =>
      right
      simp [register_of_fresh h]

theorem register_result_ok_iff :
    (r.register p).result = .ok () ↔ r.isRegistered p.networkMagic = false := by
  rcases register_cases r p with ⟨h, _, hresult, _⟩ | ⟨h, _, hresult, _⟩
  · simp [h, hresult]
  · simp [h, hresult]

/-! ## Entering a network -/

@[simp] theorem isRegistered_enter {m : NetworkMagic} :
    (r.enter p).isRegistered m = true ↔ r.isRegistered m = true ∨ p.networkMagic = m := by
  simp [isRegistered, enter, or_comm]

theorem not_registered_enter_iff {m : NetworkMagic} :
    (r.enter p).isRegistered m = false ↔ r.isRegistered m = false ∧ p.networkMagic ≠ m := by
  rw [← Bool.not_eq_true, isRegistered_enter, not_or, Bool.not_eq_true]

@[simp] theorem isPubkeyHashPrefix_enter {b : UInt8} :
    (r.enter p).isPubkeyHashPrefix b = true ↔
      r.isPubkeyHashPrefix b = true ∨ p.pubkeyHashPrefix = b := by
  simp [isPubkeyHashPrefix, enter, or_comm]

@[simp] theorem isScriptHashPrefix_enter {b : UInt8} :
    (r.enter p).isScriptHashPrefix b = true ↔
      r.isScriptHashPrefix b = true ∨ p.scriptHashPrefix = b := by
  simp [isScriptHashPrefix, enter, or_comm]

/-- A network with `aztecPrefix = 0` has no Aztec addresses, so entering it adds no prefix. -/
@[simp] theorem isAztecPrefix_enter {b : UInt8} :
    (r.enter p).isAztecPrefix b = true ↔
      r.isAztecPrefix b = true ∨ (b ≠ 0 ∧ p.aztecPrefix = b) := by
  by_cases hzero : p.aztecPrefix = 0
  · have hnone : ¬ (b ≠ 0 ∧ p.aztecPrefix = b) := by
      rintro ⟨hb, rfl⟩
      exact hb hzero
    rw [or_iff_left hnone]
    simp [isAztecPrefix, enter, hzero]
  · have hadded : p.aztecPrefix = b ↔ b ≠ 0 ∧ p.aztecPrefix = b := by
      constructor
      · rintro rfl
        exact ⟨hzero, rfl⟩
      · exact And.right
    simp [isAztecPrefix, enter, hzero, ← hadded, or_comm]

theorem publicIdOf_bytes {key k : ExtendedKeyId} :
    r.publicIdOf key.bytes = .ok k ↔ r.publicIds[key]? = some k := by
  cases h : r.publicIds[key]? with
  | none =>
      simp [publicIdOf, h]
  | some publicId =>
      simp [publicIdOf, h]

theorem publicIdOf_enter {id : List UInt8} :
    (r.enter p).publicIdOf id =
      if p.hdPrivateId.bytes = id then .ok p.hdPublicId else r.publicIdOf id := by
  by_cases hid : p.hdPrivateId.bytes = id
  · subst hid
    have hentered : (r.enter p).publicIds[p.hdPrivateId]? = some p.hdPublicId := by
      simp [enter]
    simpa using publicIdOf_bytes.2 hentered
  · have hother : ∀ key ∈ ExtendedKeyId.ofBytes? id, p.hdPrivateId ≠ key := by
      rintro key hkey rfl
      exact hid (ExtendedKeyId.ofBytes?_eq_some_iff.1 hkey).symm
    cases hkey : ExtendedKeyId.ofBytes? id with
    | none =>
        simp [publicIdOf, hid, hkey]
    | some key =>
        have hne : p.hdPrivateId ≠ key := hother key hkey
        simp [publicIdOf, enter, hid, hkey, Std.HashMap.getElem?_insert, hne]

theorem size_enter (h : r.isRegistered p.networkMagic = false) :
    (r.enter p).size = r.size + 1 := by
  have hnew : p.networkMagic ∉ r.networks := by
    simpa [isRegistered] using h
  simp [size, enter, Std.HashSet.size_insert, hnew]

/-- The registry `r` after `enter` for each network of `ps`, without the test of `register`. -/
def enterAll (r : Registry) (ps : List Parameters) : Registry :=
  ps.foldl enter r

/-- If `enter p` makes `ask` true just where it was or `adds p`, then `ask` holds of `r.enterAll ps`
just where it held of `r` or some network of `ps` adds it. -/
theorem enterAll_iff (ask : Registry → Prop) {adds : Parameters → Prop}
    (step : ∀ r p, ask (r.enter p) ↔ ask r ∨ adds p) (r : Registry) (ps : List Parameters) :
    ask (r.enterAll ps) ↔ ask r ∨ ∃ p ∈ ps, adds p := by
  induction ps generalizing r with
  | nil =>
      simp [enterAll]
  | cons p ps ih =>
      have hrest := ih (r.enter p)
      rw [step] at hrest
      simpa [enterAll, or_assoc] using hrest

theorem isRegistered_enterAll {ps : List Parameters} {m : NetworkMagic} :
    (r.enterAll ps).isRegistered m = true ↔
      r.isRegistered m = true ∨ ∃ p ∈ ps, p.networkMagic = m :=
  enterAll_iff (fun r => r.isRegistered m = true) (fun _ _ => isRegistered_enter) r ps

theorem isPubkeyHashPrefix_enterAll {ps : List Parameters} {b : UInt8} :
    (r.enterAll ps).isPubkeyHashPrefix b = true ↔
      r.isPubkeyHashPrefix b = true ∨ ∃ p ∈ ps, p.pubkeyHashPrefix = b :=
  enterAll_iff (fun r => r.isPubkeyHashPrefix b = true) (fun _ _ => isPubkeyHashPrefix_enter) r ps

theorem isScriptHashPrefix_enterAll {ps : List Parameters} {b : UInt8} :
    (r.enterAll ps).isScriptHashPrefix b = true ↔
      r.isScriptHashPrefix b = true ∨ ∃ p ∈ ps, p.scriptHashPrefix = b :=
  enterAll_iff (fun r => r.isScriptHashPrefix b = true) (fun _ _ => isScriptHashPrefix_enter) r ps

theorem isAztecPrefix_enterAll {ps : List Parameters} {b : UInt8} :
    (r.enterAll ps).isAztecPrefix b = true ↔
      r.isAztecPrefix b = true ∨ (b ≠ 0 ∧ ∃ p ∈ ps, p.aztecPrefix = b) := by
  have hentered : (r.enterAll ps).isAztecPrefix b = true ↔
      r.isAztecPrefix b = true ∨ ∃ p ∈ ps, b ≠ 0 ∧ p.aztecPrefix = b :=
    enterAll_iff (fun r => r.isAztecPrefix b = true) (fun _ _ => isAztecPrefix_enter) r ps
  have hzero : (∃ p ∈ ps, b ≠ 0 ∧ p.aztecPrefix = b) ↔ b ≠ 0 ∧ ∃ p ∈ ps, p.aztecPrefix = b := by
    constructor
    · rintro ⟨p, hp, hb, hbyte⟩
      exact ⟨hb, p, hp, hbyte⟩
    · rintro ⟨hb, p, hp, hbyte⟩
      exact ⟨p, hp, hb, hbyte⟩
  rw [hentered, hzero]

/-- The last network of `ps` with the private key identifier `id` decides what `publicIdOf id`
answers, and `r` does if there is none. -/
theorem publicIdOf_enterAll (r : Registry) (ps : List Parameters) (id : List UInt8) :
    (r.enterAll ps).publicIdOf id =
      (ps.findRev? fun p => p.hdPrivateId.bytes = id).elim (r.publicIdOf id)
        fun p => .ok p.hdPublicId := by
  induction ps generalizing r with
  | nil =>
      rfl
  | cons p ps ih =>
      have hrest : (r.enterAll (p :: ps)).publicIdOf id = _ := ih (r.enter p)
      rw [hrest, publicIdOf_enter, List.findRev?]
      -- A later network with this identifier hides the first one.
      cases ps.findRev? fun p => p.hdPrivateId.bytes = id with
      | some q =>
          rfl
      | none =>
          by_cases hp : p.hdPrivateId.bytes = id
          · simp [hp]
          · simp [hp]

/-! ## Runs of registrations -/

/-- The sublist of `ps` that `register` accepts when it is given `ps` in this order. -/
def accepted (r : Registry) : List Parameters → List Parameters
  | [] => []
  | p :: ps =>
      match (r.register p).result with
      | .ok () => p :: (r.register p).registry.accepted ps
      | .error _ => (r.register p).registry.accepted ps

@[simp] theorem registerAll_nil : r.registerAll [] = r := rfl

@[simp] theorem accepted_nil : r.accepted [] = [] := rfl

theorem registerAll_cons {ps : List Parameters} :
    r.registerAll (p :: ps) = (r.register p).registry.registerAll ps := rfl

theorem registerAll_append (r : Registry) (ps qs : List Parameters) :
    r.registerAll (ps ++ qs) = (r.registerAll ps).registerAll qs := by
  simp [registerAll]

theorem enterAll_append (r : Registry) (ps qs : List Parameters) :
    r.enterAll (ps ++ qs) = (r.enterAll ps).enterAll qs := by
  simp [enterAll]

theorem accepted_cons_of_registered {ps : List Parameters}
    (h : r.isRegistered p.networkMagic = true) :
    r.accepted (p :: ps) = r.accepted ps := by
  simp [accepted, register_of_registered h]

theorem accepted_cons_of_fresh {ps : List Parameters}
    (h : r.isRegistered p.networkMagic = false) :
    r.accepted (p :: ps) = p :: (r.enter p).accepted ps := by
  simp [accepted, register_of_fresh h]

theorem registerAll_cons_of_registered {ps : List Parameters}
    (h : r.isRegistered p.networkMagic = true) :
    r.registerAll (p :: ps) = r.registerAll ps := by
  simp [registerAll_cons, register_of_registered h]

theorem registerAll_cons_of_fresh {ps : List Parameters}
    (h : r.isRegistered p.networkMagic = false) :
    r.registerAll (p :: ps) = (r.enter p).registerAll ps := by
  simp [registerAll_cons, register_of_fresh h]

/-- Induction on a run: the first network `p` is refused and the run goes on from `r`, or it is
accepted and the run goes on from `r.enter p`. -/
@[elab_as_elim]
theorem run_induction {motive : Registry → List Parameters → Prop}
    (nil : ∀ r, motive r [])
    (refused : ∀ r p ps, r.isRegistered p.networkMagic = true → motive r ps → motive r (p :: ps))
    (entered : ∀ r p ps, r.isRegistered p.networkMagic = false → motive (r.enter p) ps →
      motive r (p :: ps))
    (r : Registry) (ps : List Parameters) : motive r ps := by
  induction ps generalizing r with
  | nil =>
      exact nil r
  | cons p ps ih =>
      cases h : r.isRegistered p.networkMagic with
      | true =>
          exact refused r p ps h (ih r)
      | false =>
          exact entered r p ps h (ih (r.enter p))

/-- A run with `registerAll` gives the registry that `enterAll` gives for the `accepted` networks
alone. -/
theorem registerAll_eq_enterAll (r : Registry) (ps : List Parameters) :
    r.registerAll ps = r.enterAll (r.accepted ps) := by
  induction r, ps using run_induction with
  | nil r =>
      rfl
  | refused r p ps h ih =>
      rw [registerAll_cons_of_registered h, accepted_cons_of_registered h]
      exact ih
  | entered r p ps h ih =>
      rw [registerAll_cons_of_fresh h, accepted_cons_of_fresh h]
      exact ih

theorem accepted_append (r : Registry) (ps qs : List Parameters) :
    r.accepted (ps ++ qs) = r.accepted ps ++ (r.registerAll ps).accepted qs := by
  induction r, ps using run_induction with
  | nil r =>
      rfl
  | refused r p ps h ih =>
      rw [List.cons_append, accepted_cons_of_registered h, accepted_cons_of_registered h,
        registerAll_cons_of_registered h]
      exact ih
  | entered r p ps h ih =>
      rw [List.cons_append, accepted_cons_of_fresh h, accepted_cons_of_fresh h,
        registerAll_cons_of_fresh h, ih, List.cons_append]

/-- After a run the magic `m` is registered just if it was before, or if any network of `ps` has it:
a network of `ps` is refused only for a magic that is registered already. -/
theorem isRegistered_registerAll {ps : List Parameters} {m : NetworkMagic} :
    (r.registerAll ps).isRegistered m = true ↔
      r.isRegistered m = true ∨ ∃ p ∈ ps, p.networkMagic = m := by
  induction r, ps using run_induction with
  | nil r =>
      simp
  | refused r p ps h ih =>
      -- The magic of the refused network adds nothing, as it is there already.
      have hold : p.networkMagic = m → r.isRegistered m = true := by
        rintro rfl
        exact h
      rw [registerAll_cons_of_registered h, ih]
      simp only [List.mem_cons, exists_eq_or_imp]
      rw [← or_assoc, or_iff_left_of_imp hold]
  | entered r p ps h ih =>
      rw [registerAll_cons_of_fresh h, ih]
      simp [or_assoc]

theorem isRegistered_builtin_iff {m : NetworkMagic} :
    builtin.isRegistered m = true ↔ ∃ p ∈ catalog, p.networkMagic = m := by
  simp [builtin, isRegistered_registerAll]

theorem isPubkeyHashPrefix_registerAll {ps : List Parameters} {b : UInt8} :
    (r.registerAll ps).isPubkeyHashPrefix b = true ↔
      r.isPubkeyHashPrefix b = true ∨ ∃ p ∈ r.accepted ps, p.pubkeyHashPrefix = b := by
  rw [registerAll_eq_enterAll]
  exact isPubkeyHashPrefix_enterAll

theorem isScriptHashPrefix_registerAll {ps : List Parameters} {b : UInt8} :
    (r.registerAll ps).isScriptHashPrefix b = true ↔
      r.isScriptHashPrefix b = true ∨ ∃ p ∈ r.accepted ps, p.scriptHashPrefix = b := by
  rw [registerAll_eq_enterAll]
  exact isScriptHashPrefix_enterAll

theorem isAztecPrefix_registerAll {ps : List Parameters} {b : UInt8} :
    (r.registerAll ps).isAztecPrefix b = true ↔
      r.isAztecPrefix b = true ∨ (b ≠ 0 ∧ ∃ p ∈ r.accepted ps, p.aztecPrefix = b) := by
  rw [registerAll_eq_enterAll]
  exact isAztecPrefix_enterAll

theorem size_registerAll (r : Registry) (ps : List Parameters) :
    (r.registerAll ps).size = r.size + (r.accepted ps).length := by
  induction r, ps using run_induction with
  | nil r =>
      simp
  | refused r p ps h ih =>
      rw [registerAll_cons_of_registered h, accepted_cons_of_registered h]
      exact ih
  | entered r p ps h ih =>
      rw [registerAll_cons_of_fresh h, accepted_cons_of_fresh h, ih, size_enter h]
      simp only [List.length_cons]
      omega

/-! ## The networks that a run accepts -/

/-- A network is `accepted` just if it is some `ps[i]` that is registered with `.ok` after the first
`i` networks. -/
theorem mem_accepted_iff {ps : List Parameters} {q : Parameters} :
    q ∈ r.accepted ps ↔
      ∃ (i : Nat) (h : i < ps.length),
        ((r.registerAll (ps.take i)).register ps[i]).result = .ok () ∧ ps[i] = q := by
  induction ps generalizing r with
  | nil =>
      simp
  | cons p ps ih =>
      have hrest := ih (r := (r.register p).registry)
      have hsplit : q ∈ r.accepted (p :: ps) ↔
          ((r.register p).result = .ok () ∧ p = q) ∨
            q ∈ (r.register p).registry.accepted ps := by
        rw [accepted]
        cases (r.register p).result with
        | ok _ =>
            simp [eq_comm]
        | error _ =>
            simp
      rw [hsplit, hrest]
      constructor
      · rintro (⟨hok, rfl⟩ | ⟨i, h, hok, rfl⟩)
        · exact ⟨0, by simp, hok, rfl⟩
        · exact ⟨i + 1, by simpa using h, hok, rfl⟩
      · rintro ⟨i, h, hok, rfl⟩
        cases i with
        | zero =>
            exact Or.inl ⟨hok, rfl⟩
        | succ i =>
            exact Or.inr ⟨i, by simpa using h, hok, rfl⟩

/-- The magic of an `accepted` network is not registered in `r`. -/
theorem not_registered_of_mem_accepted {ps : List Parameters} {q : Parameters}
    (hq : q ∈ r.accepted ps) : r.isRegistered q.networkMagic = false := by
  induction r, ps using run_induction with
  | nil r =>
      simp at hq
  | refused r p ps h ih =>
      rw [accepted_cons_of_registered h] at hq
      exact ih hq
  | entered r p ps h ih =>
      rw [accepted_cons_of_fresh h] at hq
      rcases List.mem_cons.1 hq with rfl | hlater
      · exact h
      · exact (not_registered_enter_iff.1 (ih hlater)).1

/-- No two `accepted` networks have the same `networkMagic`. -/
theorem nodup_accepted (r : Registry) (ps : List Parameters) :
    ((r.accepted ps).map Parameters.networkMagic).Nodup := by
  induction r, ps using run_induction with
  | nil r =>
      simp
  | refused r p ps h ih =>
      rw [accepted_cons_of_registered h]
      exact ih
  | entered r p ps h ih =>
      rw [accepted_cons_of_fresh h, List.map_cons, List.nodup_cons]
      refine ⟨?_, ih⟩
      -- Whatever is accepted later has a magic that is free once `p` is entered.
      intro hmem
      rcases List.mem_map.1 hmem with ⟨q, hq, hmagic⟩
      have hlater := not_registered_of_mem_accepted hq
      exact (not_registered_enter_iff.1 hlater).2 hmagic.symm

/-- All of `ps` is accepted just if no magic in it is registered in `r`, and no two are the same. -/
theorem accepted_eq_self_iff {ps : List Parameters} :
    r.accepted ps = ps ↔
      (∀ p ∈ ps, r.isRegistered p.networkMagic = false) ∧
        (ps.map Parameters.networkMagic).Nodup := by
  constructor
  · intro hall
    have hnodup := nodup_accepted r ps
    rw [hall] at hnodup
    refine ⟨?_, hnodup⟩
    intro p hp
    rw [← hall] at hp
    exact not_registered_of_mem_accepted hp
  · rintro ⟨hnew, hnodup⟩
    induction ps generalizing r with
    | nil =>
        rfl
    | cons p ps ih =>
        rw [List.map_cons, List.nodup_cons] at hnodup
        rcases hnodup with ⟨hp, hnodup⟩
        have hfirst : r.isRegistered p.networkMagic = false := hnew p List.mem_cons_self
        -- Once `p` is entered, the magics of the others are still new.
        have hrest : ∀ q ∈ ps, (r.enter p).isRegistered q.networkMagic = false := by
          intro q hq
          refine not_registered_enter_iff.2 ⟨hnew q (List.mem_cons_of_mem p hq), ?_⟩
          intro hsame
          exact hp (List.mem_map.2 ⟨q, hq, hsame.symm⟩)
        rw [accepted_cons_of_fresh hfirst, ih hrest hnodup]

/-- Of a magic `m` that is not registered in `r`, some `accepted` network has it just if some
network of `ps` does. -/
theorem exists_mem_accepted_iff (ps : List Parameters) {m : NetworkMagic}
    (hm : r.isRegistered m = false) :
    (∃ p ∈ r.accepted ps, p.networkMagic = m) ↔ ∃ p ∈ ps, p.networkMagic = m := by
  have hentered : (r.registerAll ps).isRegistered m = true ↔
      r.isRegistered m = true ∨ ∃ p ∈ r.accepted ps, p.networkMagic = m := by
    rw [registerAll_eq_enterAll]
    exact isRegistered_enterAll
  rw [isRegistered_registerAll] at hentered
  simpa [hm] using hentered.symm

end Registry
end ChainParams
