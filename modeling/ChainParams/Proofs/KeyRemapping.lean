import ChainParams.Proofs.History

/-!
# KeyRemapping — which public identifier a private one leads to

The last accepted network with a private key identifier decides where the identifier leads. Main
statement: `last_accepted_identifier_wins`, which also ties the report of a remapping to a change
that somebody who asked before can see.
-/

namespace ChainParams
namespace Registry

variable {r : Registry} {p : Parameters} {id : List UInt8} {k : ExtendedKeyId}

/-- The notice of `done` says that a private key identifier has been remapped. -/
def Registration.ReportsRemapping (done : Registration) : Prop :=
  ∃ n, done.notice? = some n ∧ n.message = "hd private key magic remapped"

/-! ## One call -/

theorem remapping?_eq_some_iff {n : Notice} :
    r.remapping? p = some n ↔
      ∃ previous, r.publicIdOf p.hdPrivateId.bytes = .ok previous ∧ previous ≠ p.hdPublicId ∧
        n = .keyRemapped p.name p.hdPrivateId previous := by
  simp only [publicIdOf_bytes]
  rw [remapping?]
  cases r.publicIds[p.hdPrivateId]? with
  | none =>
      simp
  | some previous =>
      by_cases hsame : previous = p.hdPublicId
      · simp [hsame]
      · simp [hsame, eq_comm]

theorem register_notice_remaps_iff {n : Notice} :
    ((r.register p).notice? = some n ∧ n.message = "hd private key magic remapped") ↔
      (r.register p).result = .ok () ∧
        ∃ previous, r.publicIdOf p.hdPrivateId.bytes = .ok previous ∧ previous ≠ p.hdPublicId ∧
          n = .keyRemapped p.name p.hdPrivateId previous := by
  rcases register_cases r p with ⟨_, _, hresult, hnotice⟩ | ⟨_, _, hresult, hnotice⟩
  · -- A refused network has a notice too, with a text of its own.
    have hother : ¬ ((r.register p).notice? = some n ∧
        n.message = "hd private key magic remapped") := by
      rintro ⟨hn, hmessage⟩
      rw [hnotice] at hn
      cases hn
      simp [Notice.message] at hmessage
    simp [hresult, hother]
  · have hsource : (r.register p).notice? = some n ↔ _ :=
      hnotice ▸ remapping?_eq_some_iff
    constructor
    · rintro ⟨hn, _⟩
      exact ⟨hresult, hsource.1 hn⟩
    · rintro ⟨_, previous, hprevious, hne, rfl⟩
      exact ⟨hsource.2 ⟨previous, hprevious, hne, rfl⟩, rfl⟩

theorem register_reportsRemapping_iff (r : Registry) (p : Parameters) :
    (r.register p).ReportsRemapping ↔
      (r.register p).result = .ok () ∧
        ∃ previous, r.publicIdOf p.hdPrivateId.bytes = .ok previous ∧ previous ≠ p.hdPublicId := by
  constructor
  · rintro ⟨n, hn⟩
    rcases register_notice_remaps_iff.1 hn with ⟨hresult, previous, hprevious, hne, _⟩
    exact ⟨hresult, previous, hprevious, hne⟩
  · rintro ⟨hresult, previous, hprevious, hne⟩
    exact ⟨_, register_notice_remaps_iff.2 ⟨hresult, previous, hprevious, hne, rfl⟩⟩

/-- Registering `p` changes some answer of `publicIdOf` that was known in `r` just if the call
`ReportsRemapping`. -/
theorem register_changes_answer_iff (r : Registry) (p : Parameters) :
    (∃ id k, r.publicIdOf id = .ok k ∧ (r.register p).registry.publicIdOf id ≠ .ok k) ↔
      (r.register p).ReportsRemapping := by
  have hreport := register_reportsRemapping_iff r p
  rcases register_cases r p with ⟨_, hsame, hresult, _⟩ | ⟨_, hentered, hresult, _⟩
  · simp [hreport, hsame, hresult]
  · constructor
    · rintro ⟨id, k, hbefore, hafter⟩
      rw [hentered, publicIdOf_enter] at hafter
      -- Only the identifier that was entered can lead elsewhere.
      by_cases hid : p.hdPrivateId.bytes = id
      · subst hid
        refine hreport.2 ⟨hresult, k, hbefore, ?_⟩
        rintro rfl
        simp at hafter
      · simp [hid, hbefore] at hafter
    · intro hremaps
      -- The answer that changes is the one to the identifier of the network itself.
      rcases hreport.1 hremaps with ⟨_, previous, hprevious, hne⟩
      refine ⟨p.hdPrivateId.bytes, previous, hprevious, ?_⟩
      simpa [hentered, publicIdOf_enter] using hne.symm

/-! ## Whole runs -/

theorem findRev?_eq_some_iff_append {α : Type} {f : α → Bool} {xs : List α} {a : α} :
    xs.findRev? f = some a ↔
      f a = true ∧ ∃ earlier later, xs = earlier ++ a :: later ∧ ∀ b ∈ later, ¬ f b = true := by
  -- The last match is the first one of the reversed list, with its two sides swapped.
  rw [List.findRev?_eq_find?_reverse, List.find?_eq_some_iff_append]
  constructor
  · rintro ⟨ha, later, earlier, hxs, hlater⟩
    refine ⟨ha, earlier.reverse, later.reverse, ?_, ?_⟩
    · simpa using List.reverse_eq_iff.1 hxs
    · intro b hb
      simpa using hlater b (List.mem_reverse.1 hb)
  · rintro ⟨ha, earlier, later, rfl, hlater⟩
    refine ⟨ha, later.reverse, earlier.reverse, by simp, ?_⟩
    intro b hb
    simpa using hlater b (List.mem_reverse.1 hb)

/-- After a run from `empty`, `publicIdOf id` is that of the last accepted network with `id`. -/
theorem publicIdOf_registerAll (ps : List Parameters) (id : List UInt8) :
    (empty.registerAll ps).publicIdOf id =
      ((empty.accepted ps).findRev? fun p => p.hdPrivateId.bytes = id).elim
        (.error .unknownKeyId) fun p => .ok p.hdPublicId := by
  rw [registerAll_eq_enterAll, publicIdOf_enterAll, publicIdOf_empty]

theorem publicIdOf_registerAll_eq_ok_iff {ps : List Parameters} :
    (empty.registerAll ps).publicIdOf id = .ok k ↔
      ∃ earlier p later, empty.accepted ps = earlier ++ p :: later ∧ p.hdPrivateId.bytes = id ∧
        p.hdPublicId = k ∧ ∀ q ∈ later, q.hdPrivateId.bytes ≠ id := by
  have hsplit : (empty.registerAll ps).publicIdOf id = .ok k ↔
      ∃ p, ((empty.accepted ps).findRev? fun p => p.hdPrivateId.bytes = id) = some p ∧
        p.hdPublicId = k := by
    rw [publicIdOf_registerAll]
    cases (empty.accepted ps).findRev? fun p => p.hdPrivateId.bytes = id with
    | none =>
        simp
    | some p =>
        simp
  rw [hsplit]
  simp only [findRev?_eq_some_iff_append, decide_eq_true_eq]
  constructor
  · rintro ⟨p, ⟨hid, earlier, later, haccepted, hlater⟩, hk⟩
    exact ⟨earlier, p, later, haccepted, hid, hk, hlater⟩
  · rintro ⟨earlier, p, later, haccepted, hid, hk, hlater⟩
    exact ⟨p, ⟨hid, earlier, later, haccepted, hlater⟩, hk⟩

theorem publicIdOf_registerAll_eq_error_iff {ps : List Parameters} :
    (empty.registerAll ps).publicIdOf id = .error .unknownKeyId ↔
      ∀ p ∈ empty.accepted ps, p.hdPrivateId.bytes ≠ id := by
  rw [publicIdOf_registerAll]
  cases h : (empty.accepted ps).findRev? fun p => p.hdPrivateId.bytes = id with
  | none =>
      have hnone : ∀ p ∈ empty.accepted ps, p.hdPrivateId.bytes ≠ id := by
        simpa using h
      simpa using hnone
  | some p =>
      rcases findRev?_eq_some_iff_append.1 h with ⟨hid, earlier, later, haccepted, _⟩
      have hp : p ∈ empty.accepted ps := by
        simp [haccepted]
      constructor
      · intro herror
        simp at herror
      · intro hall
        exact absurd (by simpa using hid) (hall p hp)

/-- Call `i` does not report a remapping if it is refused, if no accepted network has its
`hdPrivateId`, or if this identifier leads to its `hdPublicId` already. -/
theorem call_quiet {ps : List Parameters} {i : Nat} (h : i < ps.length)
    (hcase : (call ps i h).result ≠ .ok () ∨
      (∀ q ∈ empty.accepted (ps.take i), q.hdPrivateId ≠ ps[i].hdPrivateId) ∨
      (before ps i).publicIdOf ps[i].hdPrivateId.bytes = .ok ps[i].hdPublicId) :
    ¬ (call ps i h).ReportsRemapping := by
  intro hremaps
  rcases (register_reportsRemapping_iff (before ps i) ps[i]).1 hremaps with
    ⟨hresult, previous, hprevious, hne⟩
  rcases hcase with hrefused | hnew | hrepeated
  · exact hrefused hresult
  · -- An identifier that no accepted network has leads nowhere yet.
    have hunknown : (before ps i).publicIdOf ps[i].hdPrivateId.bytes = .error .unknownKeyId := by
      refine publicIdOf_registerAll_eq_error_iff.2 ?_
      intro q hq
      simpa using hnew q hq
    rw [hunknown] at hprevious
    cases hprevious
  · rw [hrepeated] at hprevious
    cases hprevious
    exact hne rfl

/-! ## Main statement -/

/-- After a run from `empty`, `publicIdOf id` answers with the last accepted network that has `id`,
and with `.unknownKeyId` just if none has it. Call `i` reports a remapping just if it changes an
answer that was known, and the notice names the network, the identifier and the previous answer. It
is quiet in the three cases of `call_quiet`, and then all known answers stay. -/
theorem last_accepted_identifier_wins (ps : List Parameters) :
    (∀ id k, (empty.registerAll ps).publicIdOf id = .ok k ↔
      ∃ earlier p later, empty.accepted ps = earlier ++ p :: later ∧ p.hdPrivateId.bytes = id ∧
        p.hdPublicId = k ∧ ∀ q ∈ later, q.hdPrivateId.bytes ≠ id) ∧
    (∀ id, (empty.registerAll ps).publicIdOf id = .error .unknownKeyId ↔
      ¬ (id.length = 4 ∧ ∃ p ∈ empty.accepted ps, p.hdPrivateId.bytes = id)) ∧
    (∀ (i : Nat) (h : i < ps.length),
      ((call ps i h).ReportsRemapping ↔
        ∃ id k, (before ps i).publicIdOf id = .ok k ∧
          (before ps (i + 1)).publicIdOf id ≠ .ok k) ∧
      (∀ n, (call ps i h).notice? = some n → n.message = "hd private key magic remapped" →
        ∃ previous, (before ps i).publicIdOf ps[i].hdPrivateId.bytes = .ok previous ∧
          n.details = [("network", ps[i].name), ("private", ps[i].hdPrivateId.toHex),
            ("previous", previous.toHex)]) ∧
      ((call ps i h).result ≠ .ok () ∨
          (∀ q ∈ empty.accepted (ps.take i), q.hdPrivateId ≠ ps[i].hdPrivateId) ∨
          (before ps i).publicIdOf ps[i].hdPrivateId.bytes = .ok ps[i].hdPublicId →
        ¬ (call ps i h).ReportsRemapping ∧
          ∀ id k, (before ps i).publicIdOf id = .ok k →
            (before ps (i + 1)).publicIdOf id = .ok k)) := by
  refine ⟨fun id k => publicIdOf_registerAll_eq_ok_iff, ?_, ?_⟩
  · intro id
    rw [publicIdOf_registerAll_eq_error_iff]
    constructor
    · rintro hall ⟨_, p, hp, hid⟩
      exact hall p hp hid
    · intro hnone p hp hid
      exact hnone ⟨by simp [← hid, ExtendedKeyId.bytes], p, hp, hid⟩
  · intro i h
    have hchange := register_changes_answer_iff (before ps i) ps[i]
    rw [before_succ h]
    refine ⟨hchange.symm, ?_, ?_⟩
    · intro n hn hmessage
      rcases register_notice_remaps_iff.1 ⟨hn, hmessage⟩ with ⟨_, previous, hprevious, _, rfl⟩
      exact ⟨previous, hprevious, rfl⟩
    · intro hcase
      have hquiet := call_quiet h hcase
      refine ⟨hquiet, ?_⟩
      intro id k hbefore
      by_contra hafter
      exact hquiet (hchange.1 ⟨id, k, hbefore, hafter⟩)

/-- The regression test network under another `networkMagic` and with another `hdPublicId`. -/
def rekeyedRegtest : Parameters :=
  { Catalog.regtest with
    networkMagic := ⟨0xfeedface⟩
    hdPublicId := ⟨0x04, 0x35, 0x87, 0xd0⟩ }

/-- Registered after `Catalog.regtest`, `rekeyedRegtest` takes over the private key identifier that
both have, and its registration reports that. -/
theorem last_accepted_takes_over :
    (empty.registerAll [Catalog.regtest, rekeyedRegtest]).publicIdOf [0x04, 0x35, 0x83, 0x94] =
        .ok ⟨0x04, 0x35, 0x87, 0xd0⟩ ∧
      (call [Catalog.regtest, rekeyedRegtest] 1 (by decide)).ReportsRemapping := by
  have hfirst : empty.accepted [Catalog.regtest] = [Catalog.regtest] :=
    accepted_cons_of_fresh isRegistered_empty
  have hboth : empty.accepted [Catalog.regtest, rekeyedRegtest] =
      [Catalog.regtest, rekeyedRegtest] := by
    have hfresh : (empty.enter Catalog.regtest).isRegistered rekeyedRegtest.networkMagic =
        false := not_registered_enter_iff.2 ⟨isRegistered_empty, by decide⟩
    rw [accepted_cons_of_fresh isRegistered_empty, accepted_cons_of_fresh hfresh, accepted_nil]
  have hbefore : (empty.registerAll [Catalog.regtest]).publicIdOf [0x04, 0x35, 0x83, 0x94] =
      .ok ⟨0x04, 0x35, 0x87, 0xcf⟩ := by
    refine ((last_accepted_identifier_wins [Catalog.regtest]).1 _ _).2 ?_
    exact ⟨[], Catalog.regtest, [], hfirst, rfl, rfl, by simp⟩
  rcases last_accepted_identifier_wins [Catalog.regtest, rekeyedRegtest] with
    ⟨hanswers, _, hcalls⟩
  have hafter : (empty.registerAll [Catalog.regtest, rekeyedRegtest]).publicIdOf
      [0x04, 0x35, 0x83, 0x94] = .ok ⟨0x04, 0x35, 0x87, 0xd0⟩ := by
    refine (hanswers _ _).2 ?_
    exact ⟨[Catalog.regtest], rekeyedRegtest, [], hboth, rfl, rfl, by simp⟩
  refine ⟨hafter, (hcalls 1 (by decide)).1.2 ?_⟩
  refine ⟨[0x04, 0x35, 0x83, 0x94], ⟨0x04, 0x35, 0x87, 0xcf⟩, hbefore, ?_⟩
  intro hsame
  have hclash := hafter.symm.trans hsame
  simp at hclash

end Registry
end ChainParams
