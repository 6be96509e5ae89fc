import Mathlib.Data.Finset.Card
import ChainParams.Proofs.Registration

/-!
# History — a registry as the image of the calls made on it

A run starts without any registered network and offers a list of networks one by one. Main
statement: `history_decides_answers`, by which the result of every call and every answer afterwards
can be read off the list of calls.
-/

namespace ChainParams

/-- The fields of `p` that `enter` reads. All others, `privateKeyPrefix` among them, have no part in
a registry. -/
def Parameters.identifiers (p : Parameters) :
    NetworkMagic × UInt8 × UInt8 × UInt8 × ExtendedKeyId × ExtendedKeyId :=
  (p.networkMagic, p.pubkeyHashPrefix, p.scriptHashPrefix, p.aztecPrefix, p.hdPrivateId,
    p.hdPublicId)

namespace Registry

/-! ## Calls of a run -/

/-- The registry before call `i` of a run. -/
def before (ps : List Parameters) (i : Nat) : Registry :=
  empty.registerAll (ps.take i)

/-- What comes of call `i` of a run. -/
def call (ps : List Parameters) (i : Nat) (h : i < ps.length) : Registration :=
  (before ps i).register ps[i]

theorem before_succ {ps : List Parameters} {i : Nat} (h : i < ps.length) :
    before ps (i + 1) = (call ps i h).registry := by
  rw [before, List.take_succ_eq_append_getElem h, registerAll_append]
  rfl

theorem isRegistered_before {ps : List Parameters} {i : Nat} {m : NetworkMagic} :
    (before ps i).isRegistered m = true ↔ ∃ q ∈ ps.take i, q.networkMagic = m := by
  simp [before, isRegistered_registerAll]

/-- Call `i` is accepted just if no earlier network, accepted or not, has the magic of `ps[i]`. -/
theorem call_accepted_iff {ps : List Parameters} {i : Nat} (h : i < ps.length) :
    (call ps i h).result = .ok () ↔
      ∀ q ∈ ps.take i, q.networkMagic ≠ ps[i].networkMagic := by
  rw [call, register_result_ok_iff, ← Bool.not_eq_true, isRegistered_before]
  simp

/-- If call `i` is not accepted, its error is `.duplicateNetwork` with the magic of `ps[i]`, and the
registry stays as it was. -/
theorem call_refused {ps : List Parameters} {i : Nat} (h : i < ps.length)
    (hrefused : (call ps i h).result ≠ .ok ()) :
    (call ps i h).result = .error (.duplicateNetwork ps[i].networkMagic) ∧
      (call ps i h).registry = before ps i := by
  rcases register_cases (before ps i) ps[i] with ⟨_, hsame, hresult, _⟩ | ⟨_, _, hresult, _⟩
  · exact ⟨hresult, hsame⟩
  · exact absurd hresult hrefused

/-! ## The number of networks -/

/-- The `size` after a run is the number of different magics in `ps`. -/
theorem size_eq_card_magics (ps : List Parameters) :
    (empty.registerAll ps).size = (ps.map Parameters.networkMagic).toFinset.card := by
  -- The accepted networks have the magics of all calls, and no two of them share one.
  have hmagics : ((empty.accepted ps).map Parameters.networkMagic).toFinset =
      (ps.map Parameters.networkMagic).toFinset := by
    ext m
    simpa using exists_mem_accepted_iff ps isRegistered_empty
  rw [size_registerAll, size_empty, Nat.zero_add, ← hmagics,
    List.toFinset_card_of_nodup (nodup_accepted empty ps), List.length_map]

/-- A registry is empty after a run just if `ps` is, since the first call is always accepted. -/
theorem isEmpty_registerAll_iff (ps : List Parameters) :
    (empty.registerAll ps).isEmpty = true ↔ ps = [] := by
  have hsize : (empty.registerAll ps).isEmpty = ((empty.registerAll ps).size == 0) :=
    Std.HashSet.isEmpty_eq_size_eq_zero
  rw [hsize, size_eq_card_magics]
  simp

/-! ## What registrations read -/

theorem enter_congr {p q : Parameters} (h : p.identifiers = q.identifiers) (r : Registry) :
    r.enter p = r.enter q := by
  simp only [Parameters.identifiers, Prod.mk.injEq] at h
  rcases h with ⟨hmagic, hpubkey, hscript, haztec, hprivate, hpublic⟩
  simp [enter, hmagic, hpubkey, hscript, haztec, hprivate, hpublic]

theorem enterAll_congr {ps qs : List Parameters}
    (h : ps.map Parameters.identifiers = qs.map Parameters.identifiers) (r : Registry) :
    r.enterAll ps = r.enterAll qs := by
  induction ps generalizing qs r with
  | nil =>
      have hqs : qs = [] := by
        simpa using h.symm
      rw [hqs]
  | cons p ps ih =>
      rcases List.map_eq_cons_iff.1 h.symm with ⟨q, qs, rfl, hhead, htail⟩
      have hstep : (r.enter p).enterAll ps = (r.enter p).enterAll qs := ih htail.symm (r.enter p)
      rw [enter_congr hhead.symm] at hstep
      simpa [enterAll, enter_congr hhead.symm] using hstep

/-! ## Main statement -/

/-- Every answer after a run from `empty`, in terms of its calls. Call `i` is accepted just if its
magic is new, and changes nothing otherwise. A magic is registered if any call had it; `size` counts
the different magics, which is the number of accepted calls; and a prefix is registered if an
accepted call had it, where zero is never an Aztec prefix. Two runs whose accepted networks have the
same `identifiers` end in the same registry. -/
theorem history_decides_answers (ps : List Parameters) :
    (∀ (i : Nat) (h : i < ps.length),
      ((call ps i h).result = .ok () ↔
        ∀ q ∈ ps.take i, q.networkMagic ≠ ps[i].networkMagic) ∧
      ((call ps i h).result = .ok () ∨
        ((call ps i h).result = .error (.duplicateNetwork ps[i].networkMagic) ∧
          (call ps i h).registry = before ps i)) ∧
      (call ps i h).registry = before ps (i + 1)) ∧
    (∀ p, p ∈ empty.accepted ps ↔
      ∃ (i : Nat) (h : i < ps.length), (call ps i h).result = .ok () ∧ ps[i] = p) ∧
    (∀ m, (empty.registerAll ps).isRegistered m = true ↔ ∃ p ∈ ps, p.networkMagic = m) ∧
    (empty.registerAll ps).size = (ps.map Parameters.networkMagic).toFinset.card ∧
    (empty.registerAll ps).size = (empty.accepted ps).length ∧
    ((empty.registerAll ps).isEmpty = true ↔ ps = []) ∧
    (∀ b, (empty.registerAll ps).isPubkeyHashPrefix b = true ↔
      ∃ p ∈ empty.accepted ps, p.pubkeyHashPrefix = b) ∧
    (∀ b, (empty.registerAll ps).isScriptHashPrefix b = true ↔
      ∃ p ∈ empty.accepted ps, p.scriptHashPrefix = b) ∧
    (∀ b, (empty.registerAll ps).isAztecPrefix b = true ↔
      b ≠ 0 ∧ ∃ p ∈ empty.accepted ps, p.aztecPrefix = b) ∧
    (∀ qs, (empty.accepted qs).map Parameters.identifiers =
        (empty.accepted ps).map Parameters.identifiers →
      empty.registerAll qs = empty.registerAll ps) := by
  refine ⟨?_, fun _ => mem_accepted_iff, ?_, size_eq_card_magics ps, ?_,
    isEmpty_registerAll_iff ps, ?_, ?_, ?_, ?_⟩
  · intro i h
    refine ⟨call_accepted_iff h, ?_, (before_succ h).symm⟩
    by_cases hok : (call ps i h).result = .ok ()
    · exact Or.inl hok
    · exact Or.inr (call_refused h hok)
  · intro m
    simp [isRegistered_registerAll]
  · simp [size_registerAll]
  · intro b
    simp [isPubkeyHashPrefix_registerAll]
  · intro b
    simp [isScriptHashPrefix_registerAll]
  · intro b
    simp [isAztecPrefix_registerAll]
  · intro qs hqs
    rw [registerAll_eq_enterAll, registerAll_eq_enterAll]
    exact enterAll_congr hqs empty

/-- The regression test network under the magic of `Catalog.mainnet`. -/
def clashingRegtest : Parameters :=
  { Catalog.regtest with networkMagic := Catalog.mainnet.networkMagic }

/-- The main network with `0x99` as its `privateKeyPrefix`. -/
def reprefixedMainnet : Parameters :=
  { Catalog.mainnet with privateKeyPrefix := 0x99 }

/-- Offered after `Catalog.mainnet`, `clashingRegtest` leaves no trace, and the registry is the same
under another `privateKeyPrefix` of the main network. -/
theorem history_of_refused_clash :
    (empty.accepted [Catalog.mainnet, clashingRegtest]).map Parameters.identifiers =
        (empty.accepted [reprefixedMainnet]).map Parameters.identifiers ∧
      empty.registerAll [Catalog.mainnet, clashingRegtest] =
        empty.registerAll [reprefixedMainnet] := by
  have htaken : (empty.enter Catalog.mainnet).isRegistered clashingRegtest.networkMagic = true := by
    simp [clashingRegtest]
  have hsame : (empty.accepted [Catalog.mainnet, clashingRegtest]).map Parameters.identifiers =
      (empty.accepted [reprefixedMainnet]).map Parameters.identifiers := by
    rw [accepted_cons_of_fresh isRegistered_empty, accepted_cons_of_registered htaken,
      accepted_cons_of_fresh isRegistered_empty]
    rfl
  rcases history_decides_answers [reprefixedMainnet] with ⟨_, _, _, _, _, _, _, _, _, hdetermined⟩
  exact ⟨hsame, hdetermined _ hsame⟩

end Registry
end ChainParams
