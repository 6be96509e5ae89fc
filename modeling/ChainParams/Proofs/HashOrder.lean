import Mathlib.Data.List.Sort
import Mathlib.Data.String.Basic
import ChainParams.Proofs.HashText

/-!
# HashOrder — hashes in the order of their texts

Digits of one length are in lexicographic order as the numbers that they denote are in order
(`positional_lt_iff`). The text of a hash is such a list of digits, and so are its bytes from the
last to the first, so both are in the order of the word. Main statement: `hashes_order_like_texts`,
by which hashes that are sorted are hashes with ascending texts.
-/

namespace ChainParams
namespace Text

/-! ## Lexicographic order -/

/-- If `f` keeps `<` and `=` between elements of `xs` and `ys`, then `List.map f` keeps the
lexicographic order of `xs` and `ys`. -/
theorem map_lt_map_iff {α β : Type} [LT α] [LT β] {f : α → β} {xs ys : List α}
    (hlt : ∀ x ∈ xs, ∀ y ∈ ys, f x < f y ↔ x < y) (heq : ∀ x ∈ xs, ∀ y ∈ ys, f x = f y ↔ x = y) :
    xs.map f < ys.map f ↔ xs < ys := by
  induction xs generalizing ys with
  | nil =>
      cases ys with
      | nil =>
          simp
      | cons y ys =>
          simp
  | cons x xs ih =>
      cases ys with
      | nil =>
          simp
      | cons y ys =>
          have hfirst := hlt x List.mem_cons_self y List.mem_cons_self
          have hsame := heq x List.mem_cons_self y List.mem_cons_self
          have hrest : xs.map f < ys.map f ↔ xs < ys :=
            ih (fun a ha b hb => hlt a (List.mem_cons_of_mem _ ha) b (List.mem_cons_of_mem _ hb))
              (fun a ha b hb => heq a (List.mem_cons_of_mem _ ha) b (List.mem_cons_of_mem _ hb))
          rw [List.map_cons, List.map_cons, List.cons_lt_cons_iff, List.cons_lt_cons_iff, hfirst,
            hsame, hrest]

/-- Of `d * place + m` and `e * place + n` with `m` and `n` below `place`, the smaller is the one
with the smaller of `d` and `e`, and `m` and `n` decide only if `d = e`. -/
theorem leading_lt_iff {d e m n place : Nat} (hm : m < place) (hn : n < place) :
    d * place + m < e * place + n ↔ d < e ∨ d = e ∧ m < n := by
  rcases Nat.lt_trichotomy d e with hlt | rfl | hgt
  · have hstep := Nat.mul_le_mul_right place (Nat.succ_le_of_lt hlt)
    rw [Nat.succ_mul] at hstep
    omega
  · simp
  · have hstep := Nat.mul_le_mul_right place (Nat.succ_le_of_lt hgt)
    rw [Nat.succ_mul] at hstep
    omega

/-- On digits below `radix` and lists of one length, the order of the numbers `positional radix` is
the lexicographic order of the lists. -/
theorem positional_lt_iff {radix : Nat} {ds es : List Nat} (hradix : 1 < radix)
    (hds : ∀ d ∈ ds, d < radix) (hes : ∀ e ∈ es, e < radix) (hlength : ds.length = es.length) :
    positional radix ds < positional radix es ↔ ds < es := by
  induction ds generalizing es with
  | nil =>
      rw [List.eq_nil_of_length_eq_zero hlength.symm]
      simp
  | cons d ds ih =>
      cases es with
      | nil =>
          cases hlength
      | cons e es =>
          have hrest : ds.length = es.length := Nat.succ.inj hlength
          have hds' : ∀ d ∈ ds, d < radix := fun d hd => hds d (List.mem_cons_of_mem _ hd)
          have hes' : ∀ e ∈ es, e < radix := fun e he => hes e (List.mem_cons_of_mem _ he)
          -- What is behind the first digit is less than one step of its place.
          have hlow := positional_lt hradix hds'
          rw [hrest] at hlow
          rw [positional_cons, positional_cons, hrest,
            leading_lt_iff hlow (positional_lt hradix hes'), List.cons_lt_cons_iff,
            ih hds' hes' hrest]

theorem digitChar_lt_iff : ∀ d < 16, ∀ e < 16, Nat.digitChar d < Nat.digitChar e ↔ d < e := by
  decide

theorem digitChar_eq_iff : ∀ d < 16, ∀ e < 16, Nat.digitChar d = Nat.digitChar e ↔ d = e := by
  decide

end Text

namespace Hash256

open Text

variable {a b h : Hash256} {hs : List Hash256}

/-! ## The order of two hashes -/

theorem lt_iff_toNat_lt : a < b ↔ a.word.toNat < b.word.toNat := Iff.rfl

theorem le_iff_toNat_le : a ≤ b ↔ a.word.toNat ≤ b.word.toNat := Iff.rfl

theorem word_toNat_injective : Function.Injective fun h : Hash256 => h.word.toNat := by
  intro a b hab
  cases a
  cases b
  rw [mk.injEq]
  exact BitVec.eq_of_toNat_eq hab

instance : LinearOrder Hash256 where
  le_refl a := Nat.le_refl a.word.toNat
  le_trans a b c hab hbc := Nat.le_trans (le_iff_toNat_le.1 hab) (le_iff_toNat_le.1 hbc)
  lt_iff_le_not_ge a b := Nat.lt_iff_le_and_not_ge (m := a.word.toNat) (n := b.word.toNat)
  le_antisymm a b hab hba := word_toNat_injective (Nat.le_antisymm hab hba)
  le_total a b := Nat.le_total a.word.toNat b.word.toNat
  toDecidableLE := inferInstance
  toDecidableEq := inferInstance
  toDecidableLT := inferInstance

theorem lt_iff_render_lt : a < b ↔ a.render < b.render := by
  rcases exists_digits_render a with ⟨ds, hchars, hds, hlength, hvalue⟩
  rcases exists_digits_render b with ⟨es, hchars', hes, hlength', hvalue'⟩
  have htexts : ds.map Nat.digitChar < es.map Nat.digitChar ↔ ds < es :=
    map_lt_map_iff (fun d hd e he => digitChar_lt_iff d (hds d hd) e (hes e he))
      (fun d hd e he => digitChar_eq_iff d (hds d hd) e (hes e he))
  calc
    a < b ↔ positional 16 ds < positional 16 es := by rw [lt_iff_toNat_lt, hvalue, hvalue']
    _ ↔ ds < es := positional_lt_iff (by decide) hds hes (hlength.trans hlength'.symm)
    _ ↔ a.render.toList < b.render.toList := by rw [hchars, hchars', htexts]
    _ ↔ a.render < b.render := String.lt_iff_toList_lt.symm

theorem lt_iff_reverse_bytes_lt : a < b ↔ a.bytes.reverse < b.bytes.reverse := by
  have hbyte : ∀ bytes : List UInt8, ∀ d ∈ bytes.map UInt8.toNat, d < 256 := by
    intro bytes d hd
    rcases List.mem_map.1 hd with ⟨o, _, rfl⟩
    exact o.toNat_lt
  have hbytes : a.bytes.reverse.map UInt8.toNat < b.bytes.reverse.map UInt8.toNat ↔
      a.bytes.reverse < b.bytes.reverse :=
    map_lt_map_iff (fun _ _ _ _ => UInt8.lt_iff_toNat_lt.symm) (fun _ _ _ _ => UInt8.toNat_inj)
  calc
    a < b ↔ positional 256 (a.bytes.reverse.map UInt8.toNat) <
        positional 256 (b.bytes.reverse.map UInt8.toNat) := by
      rw [lt_iff_toNat_lt, bytes, bytes, Word256.positional_reverse_bytes,
        Word256.positional_reverse_bytes]
    _ ↔ a.bytes.reverse.map UInt8.toNat < b.bytes.reverse.map UInt8.toNat :=
      positional_lt_iff (by decide) (hbyte _) (hbyte _) (by simp [bytes])
    _ ↔ a.bytes.reverse < b.bytes.reverse := hbytes

/-- Without `reverse`, `bytes` lists the lowest byte first, and its order is another one. -/
example : (⟨1⟩ : Hash256) < ⟨0x100⟩ ∧ ¬ bytes ⟨1⟩ < bytes ⟨0x100⟩ := by
  decide

/-! ## Sorting -/

theorem mem_dropRepeats : h ∈ dropRepeats hs ↔ h ∈ hs := by
  induction hs using dropRepeats.induct with
  | case1 a rest ih =>
      rw [dropRepeats, if_pos rfl, ih]
      simp
  | case2 a b rest hne ih =>
      rw [dropRepeats, if_neg hne, List.mem_cons, List.mem_cons, ih]
  | case3 short hshort =>
      rw [dropRepeats]
      exact hshort

/-- In a list that is sorted by `≤`, equal hashes are neighbours, so `dropRepeats` leaves one that
is sorted by `<`. -/
theorem pairwise_lt_dropRepeats (hascending : hs.Pairwise (· ≤ ·)) :
    (dropRepeats hs).Pairwise (· < ·) := by
  induction hs using dropRepeats.induct with
  | case1 a rest ih =>
      rw [dropRepeats, if_pos rfl]
      exact ih hascending.of_cons
  | case2 a b rest hne ih =>
      rw [dropRepeats, if_neg hne, List.pairwise_cons]
      rcases List.pairwise_cons.1 hascending with ⟨hfirst, hrest⟩
      have hnext : a < b := lt_of_le_of_ne (hfirst b List.mem_cons_self) hne
      refine ⟨fun c hc => ?_, ih hrest⟩
      -- All that follows is at least the next hash, which differs from the first.
      rcases List.mem_cons.1 (mem_dropRepeats.1 hc) with rfl | hc
      · exact hnext
      · exact lt_of_lt_of_le hnext ((List.pairwise_cons.1 hrest).1 c hc)
  | case3 short hshort =>
      cases short with
      | nil =>
          exact List.Pairwise.nil
      | cons a rest =>
          cases rest with
          | nil =>
              exact List.pairwise_singleton _ a
          | cons b rest =>
              exact absurd rfl (hshort a b rest)

theorem mem_sorted : h ∈ sorted hs ↔ h ∈ hs := by
  rw [sorted, mem_dropRepeats, (List.mergeSort_perm hs _).mem_iff]

theorem pairwise_lt_sorted (hs : List Hash256) : (sorted hs).Pairwise (· < ·) :=
  pairwise_lt_dropRepeats (List.pairwise_mergeSort' (· ≤ ·) hs)

/-! ## Main statement -/

/-- For all hashes, `a < b` just when `a.render < b.render`, just when `a.bytes.reverse` comes
before `b.bytes.reverse`, and `a = b` just when their texts are equal. So the texts of `sorted hs`,
which has the elements of `hs` and no repeats, ascend strictly. -/
theorem hashes_order_like_texts :
    (∀ a b : Hash256, (a < b ↔ a.render < b.render) ∧
      (a < b ↔ a.bytes.reverse < b.bytes.reverse) ∧ (a = b ↔ a.render = b.render)) ∧
    (∀ hs : List Hash256, ((sorted hs).map render).Pairwise (· < ·) ∧
      ∀ h, h ∈ sorted hs ↔ h ∈ hs) := by
  refine ⟨fun a b => ⟨lt_iff_render_lt, lt_iff_reverse_bytes_lt, ?_⟩, fun hs => ⟨?_, ?_⟩⟩
  · exact ⟨congrArg render, render_inj⟩
  · exact (pairwise_lt_sorted hs).map render fun _ _ => lt_iff_render_lt.1
  · exact fun h => mem_sorted

end Hash256
end ChainParams
