import ChainParams.Proofs.DataForms
import ChainParams.Proofs.HashText

/-!
# JsonForms — values in JSON and back

Every value comes back from its JSON text, and a text that is read as a value is rewritten to one
that stays as it is from then on (`RoundTrips`). Beyond that, the texts have the forms that other
programs rely on: the limbs of a hash, the digits of an extended key identifier, and members that
may be left out. Main statement: `forms_round_trip`.
-/

namespace ChainParams
namespace Json

/-- Reads `s` as a value of `α` and writes that value again. -/
def rewrite? (α : Type) [Interchange α] (s : String) : Option String :=
  (decode? s : Option α).map encode

/-- For the type `α`, `decode?` takes `encode a` back to `a`, and a text that was written by
`rewrite?` is rewritten to itself. -/
structure RoundTrips (α : Type) [Interchange α] : Prop where
  decode?_encode : ∀ a : α, decode? (encode a) = some a
  rewrite?_rewritten : ∀ s t, rewrite? α s = some t → rewrite? α t = some t

/-! ## Round trips -/

section Lawful

variable {α : Type} [Interchange α] [LawfulInterchange α]

theorem decode?_encode (a : α) : decode? (encode a) = some a := by
  rw [decode?, encode, read?_render (plain_toDatum a), Option.bind_some, ofDatum?_toDatum]

theorem encode_inj {a b : α} : encode a = encode b ↔ a = b := by
  constructor
  · intro h
    have hread := decode?_encode a
    rw [h, decode?_encode] at hread
    exact (Option.some.inj hread).symm
  · rintro rfl
    rfl

theorem roundTrips (α : Type) [Interchange α] [LawfulInterchange α] : RoundTrips α where
  decode?_encode := decode?_encode
  rewrite?_rewritten s t h := by
    -- The first text is forgotten: only the value that it was read as matters.
    rcases Option.map_eq_some_iff.1 h with ⟨a, _, rfl⟩
    rw [rewrite?, decode?_encode, Option.map_some]

end Lawful

/-! ## Hashes -/

/-- The list `[a, b, c, d]` in decimal. -/
def limbsText (a b c d : UInt64) : String :=
  "[" ++ toString a.toNat ++ "," ++ toString b.toNat ++ "," ++ toString c.toNat ++ "," ++
    toString d.toNat ++ "]"

theorem writeInteger_ofNat (n : Nat) : writeInteger (Int.ofNat n) = (toString n).toList := by
  simp [writeInteger]

theorem encode_of_limbs {h : Hash256} {a b c d : UInt64} (hlimbs : h.word.limbs = [a, b, c, d]) :
    encode h = limbsText a b c d := by
  have hdatum : toDatum h = .list [toDatum a, toDatum b, toDatum c, toDatum d] := by
    change toDatum h.word.limbs = _
    rw [hlimbs]
    rfl
  have hinteger : ∀ x : UInt64, write (toDatum x) = (toString x.toNat).toList := by
    intro x
    change write (.integer (Int.ofNat x.toNat)) = _
    rw [write, writeInteger_ofNat]
  apply String.toList_inj.1
  rw [encode, hdatum, render, String.toList_ofList, limbsText]
  simp [write, writeItems, hinteger]

theorem exists_word {n : Nat} (h : n < 2 ^ 256) : ∃ w : Word256, w.toNat = n :=
  ⟨BitVec.ofNatLT n h, rfl⟩

/-- The text `encode h` lists the limbs of `h.word`, the lowest first. -/
theorem encode_hash_iff {h : Hash256} {a b c d : UInt64} :
    encode h = limbsText a b c d ↔
      h.word.toNat = a.toNat + UInt64.size *
        (b.toNat + UInt64.size * (c.toNat + UInt64.size * d.toNat)) := by
  constructor
  · intro htext
    have ha := a.toNat_lt
    have hb := b.toNat_lt
    have hc := c.toNat_lt
    have hd := d.toNat_lt
    have hfits : a.toNat + UInt64.size *
        (b.toNat + UInt64.size * (c.toNat + UInt64.size * d.toNat)) < 2 ^ 256 := by
      simp only [UInt64.size]
      omega
    -- The word that these limbs make up is written in the same text.
    rcases exists_word hfits with ⟨w, hw⟩
    have hsame : encode (Hash256.mk w) = limbsText a b c d :=
      encode_of_limbs (Word256.limbs_eq_iff.2 hw)
    rw [encode_inj.1 (htext.trans hsame.symm)]
    exact hw
  · intro hvalue
    exact encode_of_limbs (Word256.limbs_eq_iff.2 hvalue)

end Json

/-! ## Extended key identifiers -/

namespace Text

/-- A list of `2 * n` digits below 16 is `halves` of some `n` bytes. -/
theorem exists_halves_eq {ds : List Nat} {n : Nat} (hlength : ds.length = 2 * n)
    (hlt : ∀ d ∈ ds, d < 16) : ∃ bytes, bytes.length = n ∧ halves bytes = ds := by
  induction n generalizing ds with
  | zero =>
      exact ⟨[], rfl, (List.length_eq_zero_iff.1 hlength).symm⟩
  | succ n ih =>
      rcases ds with _ | ⟨high, _ | ⟨low, ds⟩⟩
      · cases hlength
      · simp at hlength
        omega
      · have hhigh := hlt high (by simp)
        have hlow := hlt low (by simp)
        have hrest : ds.length = 2 * n := by
          simp only [List.length_cons] at hlength
          omega
        rcases ih hrest fun d hd => hlt d (by simp [hd]) with ⟨bytes, hbytes, hhalves⟩
        rcases (ofNat_eq_iff hhigh hlow).1 rfl with ⟨hhigh', hlow'⟩
        refine ⟨UInt8.ofNat (16 * high + low) :: bytes, by simp [hbytes], ?_⟩
        rw [halves_cons, ← hhigh', ← hlow', hhalves]

/-- A text spells some `n` bytes just when it consists of `2 * n` hexadecimal digits. -/
theorem exists_spells_iff {s : String} {n : Nat} :
    (∃ bytes, bytes.length = n ∧ Spells s bytes) ↔
      s.toList.length = 2 * n ∧ ∀ c ∈ s.toList, IsHexDigit c := by
  constructor
  · rintro ⟨bytes, rfl, hspells⟩
    refine ⟨?_, exists_digitValues?_iff.1 ⟨_, hspells⟩⟩
    rw [length_of_mapM hspells, length_halves]
  · rintro ⟨hlength, hdigits⟩
    rcases exists_digitValues?_iff.2 hdigits with ⟨ds, hds⟩
    have hcount : ds.length = 2 * n := by
      rw [← length_of_mapM hds, hlength]
    rcases exists_halves_eq hcount (lt_of_digitValues? hds) with ⟨bytes, hbytes, rfl⟩
    exact ⟨bytes, hbytes, hds⟩

theorem isLowerHexDigit_of_mem_hexOfBytes (bytes : List UInt8) :
    ∀ c ∈ (hexOfBytes bytes).toList, IsLowerHexDigit c := by
  induction bytes with
  | nil =>
      simp [hexOfBytes]
  | cons b bytes ih =>
      have hbyte := b.toNat_lt
      intro c hc
      rw [toList_hexOfBytes_cons, List.mem_cons, List.mem_cons] at hc
      rcases hc with rfl | rfl | hc
      · exact isLowerHexDigit_digitChar _ (by omega)
      · exact isLowerHexDigit_digitChar _ (by omega)
      · exact ih c hc

end Text

namespace ExtendedKeyId

open Text

/-- Just the texts of eight hexadecimal digits, of either case, are read as an `ExtendedKeyId`. -/
theorem exists_ofHex?_iff {s : String} :
    (∃ id, ofHex? s = some id) ↔ s.toList.length = 8 ∧ ∀ c ∈ s.toList, IsHexDigit c := by
  rw [← exists_spells_iff (n := 4)]
  constructor
  · rintro ⟨id, hid⟩
    exact ⟨id.bytes, rfl, ofHex?_eq_some_iff.1 hid⟩
  · rintro ⟨bytes, hlength, hspells⟩
    rcases bytes with _ | ⟨a, _ | ⟨b, _ | ⟨c, _ | ⟨d, _ | ⟨e, bytes⟩⟩⟩⟩⟩
    all_goals simp at hlength
    exact ⟨⟨a, b, c, d⟩, ofHex?_eq_some_iff.2 hspells⟩

theorem length_toHex (id : ExtendedKeyId) : id.toHex.toList.length = 8 := by
  have hspells := (lowerHexOf_hexOfBytes id.bytes).spells
  exact (exists_spells_iff.1 ⟨id.bytes, rfl, hspells⟩).1

end ExtendedKeyId

/-! ## All forms -/

namespace Json

open Text

theorem decode?_form {c : CustomNetwork} {aztec : Option UInt8} {privateId publicId : String}
    (haztec : aztec.getD 0 = c.aztecPrefix) (hprivate : Spells privateId c.hdPrivateId.bytes)
    (hpublic : Spells publicId c.hdPublicId.bytes) :
    decode? (render (.table (c.form aztec privateId publicId))) = some c := by
  rw [decode?, read?_render (c.plain_form aztec privateId publicId), Option.bind_some]
  exact CustomNetwork.ofDatum?_form haztec hprivate hpublic

/-- Each type `RoundTrips` through its JSON text. A hash is the list of its limbs, the lowest first;
an identifier is eight digits in lower case, and is read from eight digits of either case. A network
is `form` with its own prefix and identifiers, with `default_port` only if it has a port; it is read
from every `form` that spells its identifiers, and `aztec_prefix` may be left out if it is zero. -/
theorem forms_round_trip :
    (RoundTrips Network ∧ RoundTrips NetworkMagic ∧ RoundTrips Hash256 ∧
      RoundTrips CompactTarget ∧ RoundTrips Checkpoint ∧ RoundTrips GenesisBlock ∧
      RoundTrips CustomNetwork ∧ RoundTrips Config) ∧
    (∀ (h : Hash256) (a b c d : UInt64), encode h = limbsText a b c d ↔
      h.word.toNat = a.toNat + UInt64.size *
        (b.toNat + UInt64.size * (c.toNat + UInt64.size * d.toNat))) ∧
    (∀ id : ExtendedKeyId, id.toHex.toList.length = 8 ∧
      (∀ c ∈ id.toHex.toList, IsLowerHexDigit c) ∧ Spells id.toHex id.bytes) ∧
    (∀ s, (∃ id, ExtendedKeyId.ofHex? s = some id) ↔
      s.toList.length = 8 ∧ ∀ c ∈ s.toList, IsHexDigit c) ∧
    (∀ c : CustomNetwork,
      encode c =
        render (.table (c.form (some c.aztecPrefix) c.hdPrivateId.toHex c.hdPublicId.toHex)) ∧
      (c.form (some c.aztecPrefix) c.hdPrivateId.toHex c.hdPublicId.toHex).map Prod.fst =
        CustomNetwork.fieldNames.filter fun name =>
          name != "default_port" || c.defaultPort.isSome) ∧
    (∀ (c : CustomNetwork) aztec privateId publicId, aztec.getD 0 = c.aztecPrefix →
      Spells privateId c.hdPrivateId.bytes → Spells publicId c.hdPublicId.bytes →
        decode? (render (.table (c.form aztec privateId publicId))) = some c) ∧
    (∀ s t members, read? s = some (.table members) →
      read? t = some (.table (("aztec_prefix", .integer 0) :: members)) →
        "aztec_prefix" ∉ members.map Prod.fst →
          (decode? s : Option CustomNetwork) = decode? t) := by
  refine ⟨⟨roundTrips _, roundTrips _, roundTrips _, roundTrips _, roundTrips _, roundTrips _,
    roundTrips _, roundTrips _⟩, ?_, ?_, ?_, ?_, ?_, ?_⟩
  · intro h a b c d
    exact encode_hash_iff
  · intro id
    exact ⟨id.length_toHex, isLowerHexDigit_of_mem_hexOfBytes id.bytes,
      (lowerHexOf_hexOfBytes id.bytes).spells⟩
  · intro s
    exact ExtendedKeyId.exists_ofHex?_iff
  · intro c
    refine ⟨?_, ?_⟩
    · rw [encode, c.toDatum_eq_form]
    · simpa using c.names_form (some c.aztecPrefix) c.hdPrivateId.toHex c.hdPublicId.toHex
  · intro c aztec privateId publicId haztec hprivate hpublic
    exact decode?_form haztec hprivate hpublic
  · intro s t members hs ht hmissing
    rw [decode?, decode?, hs, ht]
    exact CustomNetwork.ofDatum?_without_aztecPrefix hmissing

/-- A network with `aztecPrefix := 0` and without a `defaultPort`. -/
def plainNetwork : CustomNetwork where
  name := "café"
  base := .mainnet
  magic := ⟨0xfeedbeef⟩
  pubkeyHashPrefix := 0x1e
  scriptHashPrefix := 0x16
  aztecPrefix := 0
  privateKeyPrefix := 0x9e
  hdPrivateId := ⟨0x02, 0xfa, 0xc3, 0x98⟩
  hdPublicId := ⟨0x02, 0xfa, 0xca, 0xfd⟩
  hdCoinType := 3
  defaultPort := none

/-- The table of `plainNetwork` as a user may write it, without `aztec_prefix`. -/
def plainMembers : List (String × Datum) :=
  plainNetwork.form none "02FAC398" "02faCAfd"

/-- The text of `plainMembers` is read as `plainNetwork`, with its identifiers in mixed case, and
with `aztec_prefix` zero as well as without it. -/
theorem plain_network_is_read :
    ((none : Option UInt8).getD 0 = plainNetwork.aztecPrefix ∧
      Spells "02FAC398" plainNetwork.hdPrivateId.bytes ∧
      Spells "02faCAfd" plainNetwork.hdPublicId.bytes ∧
      decode? (render (.table plainMembers)) = some plainNetwork) ∧
    (read? (render (.table plainMembers)) = some (.table plainMembers) ∧
      read? (render (.table (("aztec_prefix", .integer 0) :: plainMembers))) =
        some (.table (("aztec_prefix", .integer 0) :: plainMembers)) ∧
      "aztec_prefix" ∉ plainMembers.map Prod.fst ∧
      (decode? (render (.table plainMembers)) : Option CustomNetwork) =
        decode? (render (.table (("aztec_prefix", .integer 0) :: plainMembers)))) := by
  have hprivate : Spells "02FAC398" plainNetwork.hdPrivateId.bytes := by
    rw [Spells]
    decide
  have hpublic : Spells "02faCAfd" plainNetwork.hdPublicId.bytes := by
    rw [Spells]
    decide
  have hplain : (Datum.table plainMembers).Plain := plainNetwork.plain_form none _ _
  have hplain' : (Datum.table (("aztec_prefix", .integer 0) :: plainMembers)).Plain :=
    plain_cons "aztec_prefix" (.integer 0) hplain
  have hmissing : "aztec_prefix" ∉ plainMembers.map Prod.fst := by
    decide
  rcases forms_round_trip with ⟨_, _, _, _, _, hforms, hprefix⟩
  exact ⟨⟨rfl, hprivate, hpublic, hforms plainNetwork none _ _ rfl hprivate hpublic⟩,
    read?_render hplain, read?_render hplain', hmissing,
    hprefix _ _ plainMembers (read?_render hplain) (read?_render hplain') hmissing⟩

end Json
end ChainParams
