import ChainParams.Config.Basic
import ChainParams.Proofs.HexText
import ChainParams.Proofs.JsonText
import ChainParams.Proofs.TimestampText

/-!
# DataForms — values as data and back

Every type that files can hold is lawful: what is written as data is read again, whatever the
dialect (`LawfulInterchange`). For a record this comes down to its names being different, as each
field then finds what was written for it and nothing else (`fields?_zip`).
-/

namespace ChainParams

/-- The data that `toDatum` writes can stand in a text, and `ofDatum?` reads the value from it in
every dialect. -/
class LawfulInterchange (α : Type) [Interchange α] : Prop where
  plain_toDatum : ∀ a : α, (toDatum a).Plain
  ofDatum?_toDatum : ∀ (dialect : Dialect) (a : α), ofDatum? dialect (toDatum a) = some a

export LawfulInterchange (plain_toDatum ofDatum?_toDatum)

/-! ## Members of a table -/

section Members

variable {k name : String} {members : List (String × Datum)}

theorem member?_cons_of_ne (h : k ≠ name) (v : Datum) :
    member? ((k, v) :: members) name = member? members name := by
  have hname : (k == name) = false := beq_false_of_ne h
  simp only [member?, List.filter_cons, hname]
  rfl

theorem filter_of_not_mem (h : name ∉ members.map Prod.fst) :
    members.filter (fun m => m.1 == name) = [] := by
  rw [List.filter_eq_nil_iff]
  intro m hm hname
  exact h (List.mem_map.2 ⟨m, hm, eq_of_beq hname⟩)

theorem member?_of_not_mem (h : name ∉ members.map Prod.fst) :
    member? members name = some none := by
  rw [member?, filter_of_not_mem h]

theorem member?_cons_self (h : name ∉ members.map Prod.fst) (v : Datum) :
    member? ((name, v) :: members) name = some (some v) := by
  simp only [member?, List.filter_cons, beq_self_eq_true, if_true, filter_of_not_mem h]

/-- If no name is repeated in `members`, `member?` finds the value of each pair under its name. -/
theorem member?_of_mem {v : Datum} (hnames : (members.map Prod.fst).Nodup)
    (h : (name, v) ∈ members) : member? members name = some (some v) := by
  induction members with
  | nil =>
      cases h
  | cons m members ih =>
      rw [List.map_cons, List.nodup_cons] at hnames
      rcases List.mem_cons.1 h with rfl | hmem
      · exact member?_cons_self hnames.1 v
      · have hother : m.1 ≠ name := by
          rintro rfl
          exact hnames.1 (List.mem_map.2 ⟨(m.1, v), hmem, rfl⟩)
        rw [← Prod.mk.eta (p := m), member?_cons_of_ne hother, ih hnames.2 hmem]

/-- A member with a name that is not in `names` changes no look-up of `names`. -/
theorem mapM_member?_cons_of_not_mem {names : List String} (h : k ∉ names) (v : Datum) :
    names.mapM (member? ((k, v) :: members)) = names.mapM (member? members) := by
  induction names with
  | nil =>
      rfl
  | cons name names ih =>
      have hname : k ≠ name := by
        rintro rfl
        exact h List.mem_cons_self
      have hrest := ih fun hmem => h (List.mem_cons_of_mem _ hmem)
      rw [List.mapM_cons, List.mapM_cons, member?_cons_of_ne hname, hrest]

/-- In `names.zip values`, each name finds the value that it was paired with. -/
theorem mapM_member?_zip {names : List String} (hnames : names.Nodup) {values : List Datum}
    (hlength : names.length = values.length) :
    names.mapM (member? (names.zip values)) = some (values.map some) := by
  induction names generalizing values with
  | nil =>
      rw [List.length_eq_zero_iff.1 hlength.symm]
      rfl
  | cons name names ih =>
      cases values with
      | nil =>
          cases hlength
      | cons v values =>
          rcases List.nodup_cons.1 hnames with ⟨hfresh, hrest⟩
          -- The other names do not see the first member, and its name sees no other member.
          have hown : name ∉ (names.zip values).map Prod.fst := by
            intro hmem
            rcases List.mem_map.1 hmem with ⟨m, hm, rfl⟩
            exact hfresh (List.of_mem_zip hm).1
          rw [List.zip_cons_cons, List.mapM_cons, member?_cons_self hown,
            mapM_member?_cons_of_not_mem hfresh, ih hrest (Nat.succ.inj hlength)]
          rfl

/-- A table that pairs `names` with `values` has these values as its fields in every dialect. -/
theorem fields?_zip (dialect : Dialect) (values : List Datum) {names : List String}
    (hnames : names.Nodup) (hlength : names.length = values.length) :
    dialect.fields? names (.table (names.zip values)) = some (values.map some) :=
  mapM_member?_zip hnames hlength

theorem plain_zip (names : List String) {values : List Datum} (h : ∀ v ∈ values, v.Plain) :
    (Datum.table (names.zip values)).Plain := by
  refine .table ?_
  intro m hm
  exact h m.2 (List.of_mem_zip hm).2

theorem plain_cons (k : String) {v : Datum} (hv : v.Plain) (h : (Datum.table members).Plain) :
    (Datum.table ((k, v) :: members)).Plain := by
  cases h with
  | table hmembers =>
      refine .table ?_
      rw [List.forall_mem_cons]
      exact ⟨hv, hmembers⟩

end Members

/-! ## Scalars and lists -/

theorem natural?_ofNat {size n : Nat} (h : n < size) :
    natural? size (.integer (Int.ofNat n)) = some n := by
  have hrange : 0 ≤ Int.ofNat n ∧ Int.ofNat n < Int.ofNat size := by
    simp only [Int.ofNat_eq_natCast]
    omega
  rw [natural?, if_pos hrange]
  rfl

instance : LawfulInterchange UInt8 where
  plain_toDatum _ := .integer _
  ofDatum?_toDatum _ n := by
    simp only [toDatum, ofDatum?, natural?_ofNat n.toNat_lt, Option.map_some, UInt8.ofNat_toNat]

instance : LawfulInterchange UInt16 where
  plain_toDatum _ := .integer _
  ofDatum?_toDatum _ n := by
    simp only [toDatum, ofDatum?, natural?_ofNat n.toNat_lt, Option.map_some, UInt16.ofNat_toNat]

instance : LawfulInterchange UInt32 where
  plain_toDatum _ := .integer _
  ofDatum?_toDatum _ n := by
    simp only [toDatum, ofDatum?, natural?_ofNat n.toNat_lt, Option.map_some, UInt32.ofNat_toNat]

instance : LawfulInterchange UInt64 where
  plain_toDatum _ := .integer _
  ofDatum?_toDatum _ n := by
    simp only [toDatum, ofDatum?, natural?_ofNat n.toNat_lt, Option.map_some, UInt64.ofNat_toNat]

instance : LawfulInterchange Int32 where
  plain_toDatum _ := .integer _
  ofDatum?_toDatum _ n := by
    have hrange : -2147483648 ≤ n.toInt ∧ n.toInt ≤ 2147483647 :=
      ⟨n.le_toInt, Int.le_of_lt_add_one n.toInt_lt⟩
    simp only [toDatum, ofDatum?, if_pos hrange, Int32.ofInt_toInt]

instance : LawfulInterchange String where
  plain_toDatum s := .text s
  ofDatum?_toDatum _ _ := rfl

instance {α : Type} [Interchange α] [LawfulInterchange α] : LawfulInterchange (List α) where
  plain_toDatum xs := by
    refine .list ?_
    intro d hd
    rcases List.mem_map.1 hd with ⟨x, _, rfl⟩
    exact plain_toDatum x
  ofDatum?_toDatum dialect xs := by
    change (xs.map toDatum).mapM (ofDatum? dialect) = some xs
    -- Items are read one by one, as they were written.
    induction xs with
    | nil =>
        rfl
    | cons x xs ih =>
        rw [List.map_cons, List.mapM_cons, ofDatum?_toDatum, ih]
        rfl

theorem required?_toDatum {α : Type} [Interchange α] [LawfulInterchange α] (dialect : Dialect)
    (a : α) : required? dialect (some (toDatum a)) = some a :=
  ofDatum?_toDatum dialect a

/-! ## What a chain is made of -/

instance : LawfulInterchange Network where
  plain_toDatum _ := .text _
  ofDatum?_toDatum _ n := n.ofName?_name

instance : LawfulInterchange NetworkMagic where
  plain_toDatum m := plain_toDatum m.word
  ofDatum?_toDatum dialect m := by
    change (ofDatum? dialect (toDatum m.word)).map NetworkMagic.mk = some m
    rw [ofDatum?_toDatum, Option.map_some]

instance : LawfulInterchange CompactTarget where
  plain_toDatum c := plain_toDatum c.word
  ofDatum?_toDatum dialect c := by
    change (ofDatum? dialect (toDatum c.word)).map CompactTarget.mk = some c
    rw [ofDatum?_toDatum, Option.map_some]

/-- The `limbs` of `w` are its digits in radix `2 ^ 64`, the lowest first. -/
theorem Word256.limbs_eq_iff {w : Word256} {a b c d : UInt64} :
    w.limbs = [a, b, c, d] ↔
      w.toNat = a.toNat + UInt64.size *
        (b.toNat + UInt64.size * (c.toNat + UInt64.size * d.toNat)) := by
  have hlimb : ∀ i (x : UInt64),
      UInt64.ofNat (w.toNat >>> (64 * i)) = x ↔ w.toNat / 2 ^ (64 * i) % 2 ^ 64 = x.toNat := by
    intro i x
    rw [← UInt64.toNat_inj, UInt64.toNat_ofNat', Nat.shiftRight_eq_div_pow]
  have hw := w.isLt
  have ha := a.toNat_lt
  have hb := b.toNat_lt
  have hc := c.toNat_lt
  have hd := d.toNat_lt
  change [UInt64.ofNat (w.toNat >>> (64 * 0)), UInt64.ofNat (w.toNat >>> (64 * 1)),
    UInt64.ofNat (w.toNat >>> (64 * 2)), UInt64.ofNat (w.toNat >>> (64 * 3))] = [a, b, c, d] ↔ _
  simp only [List.cons.injEq, and_true, hlimb, UInt64.size]
  -- Four quotients and remainders against one sum, all below fixed powers of two.
  norm_num at *
  omega

theorem Word256.ofLimbs?_limbs (w : Word256) : ofLimbs? w.limbs = some w := by
  have hlimbs : w.limbs = [_, _, _, _] := rfl
  rw [hlimbs, ofLimbs?, ← limbs_eq_iff.1 hlimbs, BitVec.ofNat_toNat, BitVec.setWidth_eq]

instance : LawfulInterchange Hash256 where
  plain_toDatum h := plain_toDatum h.word.limbs
  ofDatum?_toDatum dialect h := by
    change (ofDatum? dialect (toDatum h.word.limbs) >>= fun limbs : List UInt64 =>
      Word256.ofLimbs? limbs >>= fun word => some (Hash256.mk word)) = some h
    rw [ofDatum?_toDatum, Option.bind_eq_bind, Option.bind_some, Word256.ofLimbs?_limbs]
    rfl

instance : LawfulInterchange Timestamp where
  plain_toDatum _ := .text _
  ofDatum?_toDatum _ t := Rfc3339.read?_render t

/-- A text is read as `id` just when it spells `id.bytes`. -/
theorem ExtendedKeyId.ofHex?_eq_some_iff {s : String} {id : ExtendedKeyId} :
    ofHex? s = some id ↔ Text.Spells s id.bytes := by
  rw [ofHex?, ← Text.bytesOfHex_eq_ok_iff]
  cases hbytes : Text.bytesOfHex s with
  | error e =>
      simp
  | ok bytes =>
      simp [ofBytes?_eq_some_iff]

instance : LawfulInterchange ExtendedKeyId where
  plain_toDatum _ := .text _
  ofDatum?_toDatum _ id :=
    ExtendedKeyId.ofHex?_eq_some_iff.2 (Text.lowerHexOf_hexOfBytes id.bytes).spells

/-! ## Records -/

section Records

variable {dialect : Dialect} {d : Datum}

-- Reading a record is stated for any data with these fields. On the table that the record is
-- written as, checking the proof would run the reader.
theorem Checkpoint.ofDatum?_of_fields {c : Checkpoint} {height hash : Option Datum}
    (hfields : dialect.fields? ["height", "hash"] d = some [height, hash])
    (hheight : required? dialect height = some c.height)
    (hhash : required? dialect hash = some c.hash) : ofDatum? dialect d = some c := by
  simp only [ofDatum?, hfields, Option.bind_eq_bind, Option.bind_some, hheight, hhash]
  rfl

instance : LawfulInterchange Checkpoint where
  plain_toDatum c := by
    have hvalues : ∀ v ∈ [toDatum c.height, toDatum c.hash], v.Plain := by
      simp [plain_toDatum]
    exact plain_zip ["height", "hash"] hvalues
  ofDatum?_toDatum dialect c := by
    have hfields : dialect.fields? ["height", "hash"] (toDatum c) =
        some [some (toDatum c.height), some (toDatum c.hash)] :=
      fields?_zip dialect [toDatum c.height, toDatum c.hash] (by decide) rfl
    exact Checkpoint.ofDatum?_of_fields hfields (required?_toDatum dialect c.height)
      (required?_toDatum dialect c.hash)

theorem GenesisBlock.ofDatum?_of_fields {b : GenesisBlock}
    {version previous merkleRoot time bits nonce : Option Datum}
    (hfields : dialect.fields? GenesisBlock.fieldNames d =
      some [version, previous, merkleRoot, time, bits, nonce])
    (hversion : required? dialect version = some b.version)
    (hprevious : required? dialect previous = some b.previous)
    (hmerkleRoot : required? dialect merkleRoot = some b.merkleRoot)
    (htime : required? dialect time = some b.time)
    (hbits : required? dialect bits = some b.bits)
    (hnonce : required? dialect nonce = some b.nonce) : ofDatum? dialect d = some b := by
  simp only [ofDatum?, hfields, Option.bind_eq_bind, Option.bind_some, hversion, hprevious,
    hmerkleRoot, htime, hbits, hnonce]
  rfl

/-- The data that the fields of `b` are written as, in the order of their names. -/
def GenesisBlock.fieldValues (b : GenesisBlock) : List Datum :=
  [toDatum b.version, toDatum b.previous, toDatum b.merkleRoot, toDatum b.time, toDatum b.bits,
    toDatum b.nonce]

instance : LawfulInterchange GenesisBlock where
  plain_toDatum b := by
    have hvalues : ∀ v ∈ b.fieldValues, v.Plain := by
      simp [GenesisBlock.fieldValues, plain_toDatum]
    exact plain_zip GenesisBlock.fieldNames hvalues
  ofDatum?_toDatum dialect b := by
    have hfields : dialect.fields? GenesisBlock.fieldNames (toDatum b) =
        some (b.fieldValues.map some) :=
      fields?_zip dialect b.fieldValues (by decide) rfl
    exact GenesisBlock.ofDatum?_of_fields hfields (required?_toDatum dialect b.version)
      (required?_toDatum dialect b.previous) (required?_toDatum dialect b.merkleRoot)
      (required?_toDatum dialect b.time) (required?_toDatum dialect b.bits)
      (required?_toDatum dialect b.nonce)

end Records

/-! ## Networks of one's own -/

namespace CustomNetwork

variable {dialect : Dialect} {members : List (String × Datum)}

/-- A table is read as `c` just when each field of `c` is read from the member of its name. -/
theorem ofDatum?_table_iff {c : CustomNetwork} :
    ofDatum? dialect (.table members) = some c ↔
      (member? members "name").bind (required? dialect) = some c.name ∧
      (member? members "base").bind (required? dialect) = some c.base ∧
      (member? members "magic").bind (required? dialect) = some c.magic ∧
      (member? members "pubkey_hash_prefix").bind (required? dialect) = some c.pubkeyHashPrefix ∧
      (member? members "script_hash_prefix").bind (required? dialect) = some c.scriptHashPrefix ∧
      (member? members "aztec_prefix").bind (withDefault? dialect 0) = some c.aztecPrefix ∧
      (member? members "private_key_prefix").bind (required? dialect) = some c.privateKeyPrefix ∧
      (member? members "hd_private_magic").bind (required? dialect) = some c.hdPrivateId ∧
      (member? members "hd_public_magic").bind (required? dialect) = some c.hdPublicId ∧
      (member? members "hd_coin_type").bind (required? dialect) = some c.hdCoinType ∧
      (member? members "default_port").bind (optional? dialect) = some c.defaultPort := by
  simp only [Option.bind_eq_some_iff]
  constructor
  · intro h
    -- All look-ups come first, then all readings, both in the order of the fields.
    rcases Option.bind_eq_some_iff.1 h with ⟨fields, hfields, hread⟩
    simp only [Dialect.fields?, fieldNames, List.mapM_cons, List.mapM_nil, Option.pure_def,
      Option.bind_eq_bind, Option.bind_eq_some_iff, Option.some.injEq] at hfields
    rcases hfields with ⟨name, hname, _, ⟨base, hbase, _, ⟨magic, hmagic, _, ⟨pubkey, hpubkey, _,
      ⟨script, hscript, _, ⟨aztec, haztec, _, ⟨key, hkey, _, ⟨hdPrivate, hhdPrivate, _,
      ⟨hdPublic, hhdPublic, _, ⟨coin, hcoin, _, ⟨port, hport, _, rfl, rfl⟩, rfl⟩, rfl⟩, rfl⟩, rfl⟩,
      rfl⟩, rfl⟩, rfl⟩, rfl⟩, rfl⟩, rfl⟩
    simp only [Option.bind_eq_bind, Option.bind_eq_some_iff, Option.pure_def, Option.some.injEq]
      at hread
    rcases hread with ⟨_, hname', _, hbase', _, hmagic', _, hpubkey', _, hscript', _, haztec', _,
      hkey', _, hhdPrivate', _, hhdPublic', _, hcoin', _, hport', rfl⟩
    exact ⟨⟨name, hname, hname'⟩, ⟨base, hbase, hbase'⟩, ⟨magic, hmagic, hmagic'⟩,
      ⟨pubkey, hpubkey, hpubkey'⟩, ⟨script, hscript, hscript'⟩, ⟨aztec, haztec, haztec'⟩,
      ⟨key, hkey, hkey'⟩, ⟨hdPrivate, hhdPrivate, hhdPrivate'⟩, ⟨hdPublic, hhdPublic, hhdPublic'⟩,
      ⟨coin, hcoin, hcoin'⟩, ⟨port, hport, hport'⟩⟩
  · -- Once all look-ups are known, the readings are the only steps left.
    rintro ⟨⟨name, hname, hname'⟩, ⟨base, hbase, hbase'⟩, ⟨magic, hmagic, hmagic'⟩,
      ⟨pubkey, hpubkey, hpubkey'⟩, ⟨script, hscript, hscript'⟩, ⟨aztec, haztec, haztec'⟩,
      ⟨key, hkey, hkey'⟩, ⟨hdPrivate, hhdPrivate, hhdPrivate'⟩, ⟨hdPublic, hhdPublic, hhdPublic'⟩,
      ⟨coin, hcoin, hcoin'⟩, ⟨port, hport, hport'⟩⟩
    have hfields : dialect.fields? fieldNames (.table members) =
        some [name, base, magic, pubkey, script, aztec, key, hdPrivate, hdPublic, coin, port] := by
      simp only [Dialect.fields?, fieldNames, List.mapM_cons, List.mapM_nil, Option.pure_def,
        Option.bind_eq_bind, Option.bind_some, hname, hbase, hmagic, hpubkey, hscript, haztec,
        hkey, hhdPrivate, hhdPublic, hcoin, hport]
    simp only [ofDatum?, hfields, Option.bind_eq_bind, Option.bind_some, hname', hbase', hmagic',
      hpubkey', hscript', haztec', hkey', hhdPrivate', hhdPublic', hcoin', hport']
    rfl

/-- A table without `aztec_prefix` is read like the same table with `aztec_prefix` zero in front. -/
theorem ofDatum?_without_aztecPrefix (h : "aztec_prefix" ∉ members.map Prod.fst) :
    (ofDatum? dialect (.table members) : Option CustomNetwork) =
      ofDatum? dialect (.table (("aztec_prefix", .integer 0) :: members)) := by
  have hother : ∀ name, "aztec_prefix" ≠ name → ∀ v,
      member? (("aztec_prefix", v) :: members) name = member? members name :=
    fun name hname v => member?_cons_of_ne hname v
  have hzero : withDefault? dialect (0 : UInt8) (some (.integer 0)) = some 0 :=
    ofDatum?_toDatum dialect 0
  have hmissing : (some none : Option (Option Datum)).bind (withDefault? dialect (0 : UInt8)) =
      (some (some (.integer 0))).bind (withDefault? dialect (0 : UInt8)) := by
    rw [Option.bind_some, Option.bind_some, hzero]
    rfl
  apply Option.ext
  intro c
  rw [ofDatum?_table_iff, ofDatum?_table_iff, hother "name" (by decide), hother "base" (by decide),
    hother "magic" (by decide), hother "pubkey_hash_prefix" (by decide),
    hother "script_hash_prefix" (by decide), hother "private_key_prefix" (by decide),
    hother "hd_private_magic" (by decide), hother "hd_public_magic" (by decide),
    hother "hd_coin_type" (by decide), hother "default_port" (by decide), member?_of_not_mem h,
    member?_cons_self h, hmissing]

/-- The table of `c` with these texts for its identifiers. Without a `defaultPort` it has no such
member, and none for the Aztec prefix where `aztec` is `none`. -/
def form (c : CustomNetwork) (aztec : Option UInt8) (privateId publicId : String) :
    List (String × Datum) :=
  [("name", toDatum c.name), ("base", toDatum c.base), ("magic", toDatum c.magic),
    ("pubkey_hash_prefix", toDatum c.pubkeyHashPrefix),
    ("script_hash_prefix", toDatum c.scriptHashPrefix)] ++
  aztec.toList.map (fun b => ("aztec_prefix", toDatum b)) ++
  [("private_key_prefix", toDatum c.privateKeyPrefix), ("hd_private_magic", .text privateId),
    ("hd_public_magic", .text publicId), ("hd_coin_type", toDatum c.hdCoinType)] ++
  c.defaultPort.toList.map (fun port => ("default_port", toDatum port))

theorem toDatum_eq_form (c : CustomNetwork) :
    toDatum c = .table (c.form (some c.aztecPrefix) c.hdPrivateId.toHex c.hdPublicId.toHex) := by
  rcases c with ⟨name, base, magic, pubkey, script, aztec, key, hdPrivate, hdPublic, coin, port⟩
  cases port with
  | none =>
      rfl
  | some port =>
      rfl

/-- The names in `form` are those of `fieldNames` in their order, but for the two members that may
be left out. -/
theorem names_form (c : CustomNetwork) (aztec : Option UInt8) (privateId publicId : String) :
    (c.form aztec privateId publicId).map Prod.fst =
      fieldNames.filter fun name =>
        (name != "aztec_prefix" || aztec.isSome) &&
          (name != "default_port" || c.defaultPort.isSome) := by
  rw [form]
  cases aztec with
  | none =>
      cases c.defaultPort with
      | none =>
          rfl
      | some port =>
          rfl
  | some b =>
      cases c.defaultPort with
      | none =>
          rfl
      | some port =>
          rfl

theorem nodup_form (c : CustomNetwork) (aztec : Option UInt8) (privateId publicId : String) :
    ((c.form aztec privateId publicId).map Prod.fst).Nodup := by
  rw [names_form]
  exact List.Pairwise.filter _ (show fieldNames.Nodup by decide)

theorem member?_form_aztecPrefix (c : CustomNetwork) (aztec : Option UInt8)
    (privateId publicId : String) :
    (member? (c.form aztec privateId publicId) "aztec_prefix").bind (withDefault? dialect 0) =
      some (aztec.getD 0) := by
  cases aztec with
  | none =>
      have habsent : "aztec_prefix" ∉ (c.form none privateId publicId).map Prod.fst := by
        rw [names_form]
        simp
      rw [member?_of_not_mem habsent, Option.bind_some]
      rfl
  | some b =>
      have hmem : ("aztec_prefix", toDatum b) ∈ c.form (some b) privateId publicId := by
        simp [form]
      rw [member?_of_mem (c.nodup_form _ _ _) hmem, Option.bind_some]
      exact ofDatum?_toDatum dialect b

theorem member?_form_defaultPort (c : CustomNetwork) (aztec : Option UInt8)
    (privateId publicId : String) :
    (member? (c.form aztec privateId publicId) "default_port").bind (optional? dialect) =
      some c.defaultPort := by
  cases hport : c.defaultPort with
  | none =>
      have habsent : "default_port" ∉ (c.form aztec privateId publicId).map Prod.fst := by
        rw [names_form]
        simp [hport]
      rw [member?_of_not_mem habsent, Option.bind_some]
      rfl
  | some port =>
      have hmem : ("default_port", toDatum port) ∈ c.form aztec privateId publicId := by
        simp [form, hport]
      rw [member?_of_mem (c.nodup_form _ _ _) hmem, Option.bind_some]
      change (ofDatum? dialect (toDatum port)).map some = some (some port)
      rw [ofDatum?_toDatum, Option.map_some]

/-- Any `form` of `c` is read as `c`: the identifiers are spelled in either case, and `aztec` is the
prefix of `c`, or `none` where that is zero. -/
theorem ofDatum?_form {c : CustomNetwork} {aztec : Option UInt8} {privateId publicId : String}
    (haztec : aztec.getD 0 = c.aztecPrefix) (hprivate : Text.Spells privateId c.hdPrivateId.bytes)
    (hpublic : Text.Spells publicId c.hdPublicId.bytes) :
    ofDatum? dialect (.table (c.form aztec privateId publicId)) = some c := by
  have hfound : ∀ {name v}, (name, v) ∈ c.form aztec privateId publicId →
      member? (c.form aztec privateId publicId) name = some (some v) :=
    fun h => member?_of_mem (c.nodup_form aztec privateId publicId) h
  have hwritten : ∀ {α : Type} [Interchange α] [LawfulInterchange α] {name} (a : α),
      (name, toDatum a) ∈ c.form aztec privateId publicId →
        (member? (c.form aztec privateId publicId) name).bind (required? dialect) = some a := by
    intro α _ _ name a h
    rw [hfound h, Option.bind_some, required?_toDatum]
  have hspelled : ∀ {name s} {id : ExtendedKeyId}, Text.Spells s id.bytes →
      (name, .text s) ∈ c.form aztec privateId publicId →
        (member? (c.form aztec privateId publicId) name).bind (required? dialect) = some id := by
    intro name s id hs h
    rw [hfound h, Option.bind_some]
    exact ExtendedKeyId.ofHex?_eq_some_iff.2 hs
  rw [ofDatum?_table_iff]
  refine ⟨hwritten _ ?_, hwritten _ ?_, hwritten _ ?_, hwritten _ ?_, hwritten _ ?_,
    haztec ▸ c.member?_form_aztecPrefix aztec privateId publicId, hwritten _ ?_,
    hspelled hprivate ?_, hspelled hpublic ?_, hwritten _ ?_,
    c.member?_form_defaultPort aztec privateId publicId⟩
  all_goals simp [form]

theorem plain_form (c : CustomNetwork) (aztec : Option UInt8) (privateId publicId : String) :
    (Datum.table (c.form aztec privateId publicId)).Plain := by
  refine .table ?_
  have hidentifier : ∀ s, (Datum.text s).Plain := fun s => .text s
  simp only [form, List.forall_mem_append, List.forall_mem_cons, List.forall_mem_map, plain_toDatum,
    hidentifier, implies_true, and_true, List.not_mem_nil, false_implies]

instance : LawfulInterchange CustomNetwork where
  plain_toDatum c := by
    rw [toDatum_eq_form]
    exact c.plain_form _ _ _
  ofDatum?_toDatum dialect c := by
    rw [toDatum_eq_form]
    exact ofDatum?_form rfl (Text.lowerHexOf_hexOfBytes c.hdPrivateId.bytes).spells
      (Text.lowerHexOf_hexOfBytes c.hdPublicId.bytes).spells

end CustomNetwork

theorem Config.ofDatum?_of_fields {dialect : Dialect} {d : Datum} {c : Config}
    {networks : Option Datum}
    (hfields : dialect.fields? ["custom_networks"] d = some [networks])
    (hnetworks : withDefault? dialect [] networks = some c.customNetworks) :
    ofDatum? dialect d = some c := by
  simp only [ofDatum?, hfields, Option.bind_eq_bind, Option.bind_some, hnetworks]
  rfl

instance : LawfulInterchange Config where
  plain_toDatum c := by
    have hvalues : ∀ v ∈ [toDatum c.customNetworks], v.Plain := by
      simp [plain_toDatum]
    exact plain_zip ["custom_networks"] hvalues
  ofDatum?_toDatum dialect c := by
    have hfields : dialect.fields? ["custom_networks"] (toDatum c) =
        some [some (toDatum c.customNetworks)] :=
      fields?_zip dialect [toDatum c.customNetworks] (by decide) rfl
    exact Config.ofDatum?_of_fields hfields (ofDatum?_toDatum dialect c.customNetworks)

end ChainParams
