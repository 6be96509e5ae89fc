import ChainParams.Proofs.KnownNetworks

/-!
# RegistrationOrder — which answers depend on the order of registrations

Networks whose magics are new and differ from one another are all accepted, in whatever order they
are offered. Prefixes are only ever added, so the order cannot be seen in them; a private key
identifier leads where the last network takes it, so there the order can be seen exactly if two of
the networks take it to different places. Main statement: `order_matters_only_for_disputed_keys`.
-/

namespace ChainParams
namespace Registry

variable {r s : Registry} {ps qs : List Parameters} {id : List UInt8}

/-- The registry `r` accepts every network of `ps` when they are offered in this order. -/
def AcceptsAll (r : Registry) (ps : List Parameters) : Prop :=
  ∀ (i : Nat) (h : i < ps.length), ((r.registerAll (ps.take i)).register ps[i]).result = .ok ()

/-- The registries `r` and `s` agree about magics and prefixes, and in `size`. -/
structure SameNetworks (r s : Registry) : Prop where
  isRegistered : ∀ m, r.isRegistered m = s.isRegistered m
  isPubkeyHashPrefix : ∀ b, r.isPubkeyHashPrefix b = s.isPubkeyHashPrefix b
  isScriptHashPrefix : ∀ b, r.isScriptHashPrefix b = s.isScriptHashPrefix b
  isAztecPrefix : ∀ b, r.isAztecPrefix b = s.isAztecPrefix b
  size : r.size = s.size
  isEmpty : r.isEmpty = s.isEmpty

/-- All networks of `ps` with the private key identifier `id` have the same `hdPublicId`. -/
def Undisputed (ps : List Parameters) (id : List UInt8) : Prop :=
  ∀ p ∈ ps, ∀ q ∈ ps, p.hdPrivateId.bytes = id → q.hdPrivateId.bytes = id →
    p.hdPublicId = q.hdPublicId

/-! ## Lists of new networks -/

/-- No magic of `ps` is registered in `r`, and no two are the same. -/
def New (r : Registry) (ps : List Parameters) : Prop :=
  (∀ p ∈ ps, r.isRegistered p.networkMagic = false) ∧ (ps.map Parameters.networkMagic).Nodup

theorem New.perm (h : r.New ps) (hperm : ps.Perm qs) : r.New qs := by
  rcases h with ⟨hnew, hnodup⟩
  constructor
  · intro q hq
    exact hnew q (hperm.mem_iff.2 hq)
  · exact (hperm.map Parameters.networkMagic).nodup_iff.1 hnodup

theorem New.registerAll_eq (h : r.New ps) : r.registerAll ps = r.enterAll ps := by
  rw [registerAll_eq_enterAll, accepted_eq_self_iff.2 h]

theorem New.acceptsAll (h : r.New ps) : r.AcceptsAll ps := by
  rcases h with ⟨hnew, hnodup⟩
  intro i hi
  -- The networks in front of this one have other magics, and so has the registry they came to.
  have hfront : ((ps.take (i + 1)).map Parameters.networkMagic).Nodup := by
    rw [List.map_take]
    exact hnodup.sublist (List.take_sublist _ _)
  have hearlier : ∀ q ∈ ps.take i, q.networkMagic ≠ ps[i].networkMagic := by
    rw [List.take_succ_eq_append_getElem hi, List.map_append, List.nodup_append] at hfront
    intro q hq
    exact hfront.2.2 _ (List.mem_map_of_mem hq) _ (by simp)
  apply register_result_ok_iff.2
  apply Bool.eq_false_iff.2
  intro hregistered
  rcases isRegistered_registerAll.1 hregistered with hold | ⟨q, hq, hsame⟩
  · rw [hnew _ (List.getElem_mem hi)] at hold
    cases hold
  · exact hearlier q hq hsame

/-! ## Magics and prefixes -/

/-- If `enter p` makes `ask` true just where it was or `adds p`, then `ask` does not tell `ps` from
a permutation of it. -/
theorem enterAll_perm (ask : Registry → Prop) {adds : Parameters → Prop}
    (step : ∀ r p, ask (r.enter p) ↔ ask r ∨ adds p) (hperm : ps.Perm qs) :
    ask (r.enterAll ps) ↔ ask (r.enterAll qs) := by
  rw [enterAll_iff ask step, enterAll_iff ask step]
  simp only [hperm.mem_iff]

theorem isEmpty_eq_of_size_eq (h : r.size = s.size) : r.isEmpty = s.isEmpty := by
  have hsize : ∀ t : Registry, t.isEmpty = (t.size == 0) := fun _ =>
    Std.HashSet.isEmpty_eq_size_eq_zero
  rw [hsize r, hsize s, h]

theorem New.sameNetworks (h : r.New ps) (hperm : ps.Perm qs) :
    SameNetworks (r.registerAll ps) (r.registerAll qs) := by
  have hsize : (r.registerAll ps).size = (r.registerAll qs).size := by
    rw [size_registerAll, size_registerAll, accepted_eq_self_iff.2 h,
      accepted_eq_self_iff.2 (h.perm hperm), hperm.length_eq]
  have hps := h.registerAll_eq
  have hqs := (h.perm hperm).registerAll_eq
  refine ⟨?_, ?_, ?_, ?_, hsize, isEmpty_eq_of_size_eq hsize⟩
  · intro m
    rw [hps, hqs, Bool.eq_iff_iff]
    exact enterAll_perm (fun r => r.isRegistered m = true) (fun _ _ => isRegistered_enter) hperm
  · intro b
    rw [hps, hqs, Bool.eq_iff_iff]
    exact enterAll_perm (fun r => r.isPubkeyHashPrefix b = true)
      (fun _ _ => isPubkeyHashPrefix_enter) hperm
  · intro b
    rw [hps, hqs, Bool.eq_iff_iff]
    exact enterAll_perm (fun r => r.isScriptHashPrefix b = true)
      (fun _ _ => isScriptHashPrefix_enter) hperm
  · intro b
    rw [hps, hqs, Bool.eq_iff_iff]
    exact enterAll_perm (fun r => r.isAztecPrefix b = true) (fun _ _ => isAztecPrefix_enter) hperm

/-! ## Key identifiers -/

theorem Undisputed.perm (h : Undisputed ps id) (hperm : ps.Perm qs) : Undisputed qs id := by
  intro p hp q hq
  exact h p (hperm.mem_iff.2 hp) q (hperm.mem_iff.2 hq)

/-- If no network of `ps` has `id`, then `publicIdOf id` is what it was in `r`. -/
theorem publicIdOf_enterAll_of_absent (h : ∀ p ∈ ps, p.hdPrivateId.bytes ≠ id) :
    (r.enterAll ps).publicIdOf id = r.publicIdOf id := by
  have hnone : (ps.findRev? fun p => p.hdPrivateId.bytes = id) = none := by
    simpa using h
  rw [publicIdOf_enterAll, hnone, Option.elim_none]

/-- If `id` is `Undisputed`, then `publicIdOf id` is the `hdPublicId` of any network of `ps` that
has it. -/
theorem publicIdOf_enterAll_of_undisputed (h : Undisputed ps id) {p : Parameters} (hp : p ∈ ps)
    (hid : p.hdPrivateId.bytes = id) : (r.enterAll ps).publicIdOf id = .ok p.hdPublicId := by
  rcases List.append_of_mem hp with ⟨earlier, later, rfl⟩
  subst hid
  apply publicIdOf_own
  intro q hq hkey
  have hq : q ∈ earlier ++ p :: later :=
    List.mem_append_right earlier (List.mem_cons_of_mem p hq)
  exact h q hq p hp (congrArg ExtendedKeyId.bytes hkey) rfl

theorem publicIdOf_enterAll_perm (h : Undisputed ps id) (hperm : ps.Perm qs) :
    (r.enterAll ps).publicIdOf id = (r.enterAll qs).publicIdOf id := by
  by_cases hclaimed : ∃ p ∈ ps, p.hdPrivateId.bytes = id
  · rcases hclaimed with ⟨p, hp, hid⟩
    rw [publicIdOf_enterAll_of_undisputed h hp hid,
      publicIdOf_enterAll_of_undisputed (h.perm hperm) (hperm.mem_iff.1 hp) hid]
  · have habsent : ∀ p ∈ ps, p.hdPrivateId.bytes ≠ id := by
      intro p hp hid
      exact hclaimed ⟨p, hp, hid⟩
    have habsent' : ∀ q ∈ qs, q.hdPrivateId.bytes ≠ id := by
      intro q hq
      exact habsent q (hperm.mem_iff.2 hq)
    rw [publicIdOf_enterAll_of_absent habsent, publicIdOf_enterAll_of_absent habsent']

/-- For every `p` in `ps`, some permutation of `ps` lets the `hdPrivateId` of `p` lead to the
`hdPublicId` of `p`. -/
theorem exists_perm_publicIdOf {p : Parameters} (h : r.New ps) (hp : p ∈ ps) :
    ∃ qs, ps.Perm qs ∧ (r.registerAll qs).publicIdOf p.hdPrivateId.bytes = .ok p.hdPublicId := by
  -- It is registered after all others.
  have hperm : ps.Perm (ps.erase p ++ [p]) :=
    (List.perm_cons_erase hp).trans (List.perm_append_singleton p (ps.erase p)).symm
  refine ⟨ps.erase p ++ [p], hperm, ?_⟩
  rw [(h.perm hperm).registerAll_eq]
  apply publicIdOf_own
  intro q hq
  cases hq

/-! ## Main statement -/

/-- Let `ps` have new and different magics. Then every permutation `qs` of `ps` is accepted and
leads to `SameNetworks`, and `publicIdOf id` answers alike if `id` is `Undisputed`. If two networks
of `ps` have the private key identifier `id` and different public ones, then some permutation
changes the answer, and only then. -/
theorem order_matters_only_for_disputed_keys (r : Registry) (ps : List Parameters)
    (hnew : ∀ p ∈ ps, r.isRegistered p.networkMagic = false)
    (hdistinct : (ps.map Parameters.networkMagic).Nodup) :
    (∀ qs, ps.Perm qs →
      r.AcceptsAll ps ∧ r.AcceptsAll qs ∧ SameNetworks (r.registerAll ps) (r.registerAll qs) ∧
      ∀ id, Undisputed ps id →
        (r.registerAll ps).publicIdOf id = (r.registerAll qs).publicIdOf id) ∧
    (∀ id,
      (∃ qs, ps.Perm qs ∧ (r.registerAll ps).publicIdOf id ≠ (r.registerAll qs).publicIdOf id) ↔
        ∃ p ∈ ps, ∃ q ∈ ps, p.hdPrivateId.bytes = id ∧ q.hdPrivateId.bytes = id ∧
          p.hdPublicId ≠ q.hdPublicId) := by
  have h : r.New ps := ⟨hnew, hdistinct⟩
  have hsame : ∀ qs, ps.Perm qs → ∀ id, Undisputed ps id →
      (r.registerAll ps).publicIdOf id = (r.registerAll qs).publicIdOf id := by
    intro qs hperm id hid
    rw [h.registerAll_eq, (h.perm hperm).registerAll_eq]
    exact publicIdOf_enterAll_perm hid hperm
  refine ⟨?_, ?_⟩
  · intro qs hperm
    exact ⟨h.acceptsAll, (h.perm hperm).acceptsAll, h.sameNetworks hperm, hsame qs hperm⟩
  · intro id
    constructor
    · rintro ⟨qs, hperm, hchanged⟩
      by_contra hnone
      apply hchanged
      apply hsame qs hperm
      intro p hp q hq hpid hqid
      by_contra hne
      exact hnone ⟨p, hp, q, hq, hpid, hqid, hne⟩
    · rintro ⟨p, hp, q, hq, rfl, hqid, hne⟩
      rcases exists_perm_publicIdOf h hp with ⟨ps', hps', hlast⟩
      rcases exists_perm_publicIdOf h hq with ⟨qs', hqs', hlast'⟩
      rw [hqid] at hlast'
      -- The list itself gives one answer, and one of the two orders gives another.
      by_cases hgiven : (r.registerAll ps).publicIdOf p.hdPrivateId.bytes = .ok p.hdPublicId
      · refine ⟨qs', hqs', ?_⟩
        rw [hgiven, hlast']
        simpa using hne
      · refine ⟨ps', hps', ?_⟩
        rw [hlast]
        exact hgiven

/-- The networks `Catalog.regtest` and `rekeyedRegtest` share their `hdPrivateId`: their order
decides where it leads, and nothing else. -/
theorem order_of_disputed_regtest :
    (∃ qs, [Catalog.regtest, rekeyedRegtest].Perm qs ∧
      (empty.registerAll [Catalog.regtest, rekeyedRegtest]).publicIdOf [0x04, 0x35, 0x83, 0x94] ≠
        (empty.registerAll qs).publicIdOf [0x04, 0x35, 0x83, 0x94]) ∧
    SameNetworks (empty.registerAll [Catalog.regtest, rekeyedRegtest])
      (empty.registerAll [rekeyedRegtest, Catalog.regtest]) := by
  rcases order_matters_only_for_disputed_keys empty [Catalog.regtest, rekeyedRegtest]
    (fun _ _ => isRegistered_empty) (by decide) with ⟨horders, hdisputed⟩
  constructor
  · apply (hdisputed [0x04, 0x35, 0x83, 0x94]).2
    exact ⟨Catalog.regtest, by simp, rekeyedRegtest, by simp, rfl, rfl, by decide⟩
  · exact (horders _ (List.Perm.swap _ _ _)).2.2.1

end Registry
end ChainParams
