import ChainParams.FileTree
import ChainParams.Invocation.Run
import ChainParams.Proofs.HexText
import ChainParams.Proofs.KnownNetworks

/-!
# ToolAnswers — what the tool prints on a tree of files

A question is answered from the built-in networks and those of the configuration, or not at all.
`query_answers` says for every tree and every configuration path how an invocation ends: a
configuration that is turned down leaves no question answered, writing a configuration does not
look at one, and the answers about prefixes and key identifiers are those of the known networks.

What is stated is the exit code, the standard output and the reports of failures. Log lines, which
`Exit` leaves out, may come on standard error beside them.
-/

namespace ChainParams

open ChainParams.Text

/-! ## Identifiers in hexadecimal -/

/-- The text `s` is answered just when it spells `bytes` and `publicIdOf bytes` has an answer. -/
theorem Registry.publicHex_eq_ok_iff {r : Registry} {s text : String} :
    r.publicHex s = .ok text ↔
      ∃ bytes id, Spells s bytes ∧ r.publicIdOf bytes = .ok id ∧ id.toHex = text := by
  cases hread : bytesOfHex s with
  | error cause =>
      have hnone : ∀ bytes, ¬ Spells s bytes := by
        intro bytes hspells
        have hok := bytesOfHex_eq_ok_iff.2 hspells
        rw [hread] at hok
        cases hok
      simp [publicHex, hread, hnone]
  | ok bytes =>
      have hspells : ∀ other, Spells s other ↔ other = bytes := by
        intro other
        rw [← bytesOfHex_eq_ok_iff, hread, Except.ok.injEq, eq_comm]
      cases hid : r.publicIdOf bytes with
      | error e =>
          simp [publicHex, hread, hspells, hid]
      | ok id =>
          simp [publicHex, hread, hspells, hid]

/-! ## Runs on a tree of files -/

/-- What `Invocation.run` does once it has the outcome `o`: it writes the file of a `.write`, and
ends with `o.exit`. -/
def Outcome.carryOut {m : Type → Type} [Monad m] [FileAccess m] (o : Outcome) : m Exit := do
  let written ← match o with
    | .write path text => FileAccess.write path text
    | .print _ | .fail _ => pure (.ok ())
  return o.exit written

namespace FileTree

variable {t : FileTree} {config? : Option String}

/-- How the invocation `i` ends on the tree `t`, and the tree afterwards. -/
def perform (t : FileTree) (i : Invocation) : Exit × FileTree :=
  (i.run (m := StateM FileTree)).run t

/-- What `t` holds at a path, if there is one. -/
def contentAt (t : FileTree) : Option String → Except SystemError ByteArray
  | some path => t.read path
  | none => .error .notFound

/-- How an outcome ends on `t`, and the tree afterwards: only `.write` changes it, and only if the
text can be written. -/
def conclude (t : FileTree) : Outcome → Exit × FileTree
  | .print text => (⟨0, text, ""⟩, t)
  | .fail report => (⟨1, "", report.print⟩, t)
  | .write path text =>
      match t.write path text with
      | .ok t' => (⟨0, "", ""⟩, t')
      | .error e => (⟨1, "", (Report.mk e.message none).print⟩, t)

theorem run_write (t : FileTree) (path text : String) :
    (FileAccess.write path text : StateM FileTree (Except SystemError Unit)).run t =
      match t.write path text with
      | .ok t' => (.ok (), t')
      | .error e => (.error e, t) := by
  -- The tree that is written to is the one that the run began with.
  change StateT.run (match t.write path text with
    | .ok t' => (do set t'; return .ok ())
    | .error e => return .error e : StateM FileTree (Except SystemError Unit)) t = _
  cases t.write path text with
  | error e =>
      rfl
  | ok t' =>
      rfl

theorem run_carryOut (t : FileTree) (o : Outcome) :
    (o.carryOut : StateM FileTree Exit).run t = t.conclude o := by
  cases o with
  | print text =>
      rfl
  | fail report =>
      rfl
  | write path text =>
      have hsteps : ((Outcome.write path text).carryOut : StateM FileTree Exit).run t =
          (FileAccess.write path text >>= fun written =>
            pure ((Outcome.write path text).exit written) : StateM FileTree Exit).run t := rfl
      rw [hsteps, StateT.run_bind, run_write, conclude]
      cases t.write path text with
      | error e =>
          rfl
      | ok t' =>
          rfl

theorem perform_eq (t : FileTree) (i : Invocation) :
    t.perform i = t.conclude (i.outcome (t.contentAt i.configPath?)) := by
  rw [← run_carryOut]
  unfold perform Invocation.run
  -- Reading leaves the tree as it is, whether there is a path to read or not.
  cases i.configPath? with
  | none =>
      rfl
  | some path =>
      rfl

/-- How a question ends: the answer is printed with code 0, or the report of a failure with code
1. -/
def answered (t : FileTree) : Except Report String → Exit × FileTree
  | .ok text => (⟨0, text, ""⟩, t)
  | .error report => (⟨1, "", report.print⟩, t)

theorem perform_query (q : Query) :
    t.perform ⟨.query q, config?⟩ =
      t.answered
        (Config.loaded config? (t.contentAt config?) >>= fun config => config.answer q) := by
  have houtcome : t.perform ⟨.query q, config?⟩ =
      t.conclude (Invocation.outcome ⟨.query q, config?⟩ (t.contentAt config?)) := perform_eq t _
  rw [houtcome]
  simp only [Invocation.outcome]
  cases Config.loaded config? (t.contentAt config?) >>= fun config => config.answer q with
  | error report =>
      rfl
  | ok text =>
      rfl

/-- The outcome of `.generateConfig output` does not depend on `config?`. -/
theorem perform_generateConfig (output : String) :
    t.perform ⟨.generateConfig output, config?⟩ =
      t.conclude (.write output Config.sample.toToml) :=
  perform_eq t _

/-! ## Accepted and rejected configurations -/

/-- The configuration at `config?` cannot be loaded, or `enroll` fails on its networks. -/
def Rejects (t : FileTree) (config? : Option String) : Prop :=
  (∃ report, Config.loaded config? (t.contentAt config?) = .error report) ∨
    ∃ config e, Config.loaded config? (t.contentAt config?) = .ok config ∧
      (Registry.builtin.enroll config.customNetworks).result = .error e

/-- The configuration at `config?` is loaded and has the networks `cs`, which `enroll` accepts. -/
def Accepts (t : FileTree) (config? : Option String) (cs : List CustomNetwork) : Prop :=
  Config.loaded config? (t.contentAt config?) = .ok ⟨cs⟩ ∧
    ∃ customs, (Registry.builtin.enroll cs).result = .ok customs

theorem perform_query_of_rejects (h : t.Rejects config?) (q : Query) :
    ∃ stderr, t.perform ⟨.query q, config?⟩ = (⟨1, "", stderr⟩, t) := by
  rw [perform_query]
  rcases h with ⟨report, hload⟩ | ⟨config, e, hload, hresult⟩
  · refine ⟨report.print, ?_⟩
    rw [hload]
    rfl
  · have hanswer : config.answer q = .error e.report := by
      simp [Config.answer, hresult]
    refine ⟨e.report.print, ?_⟩
    rw [hload]
    exact congrArg t.answered hanswer

/-- With an accepted configuration, `Registry.known cs` answers every question. -/
theorem perform_query_of_accepts {cs : List CustomNetwork} (h : t.Accepts config? cs) (q : Query) :
    t.perform ⟨.query q, config?⟩ =
      t.answered (q.answer (Registry.known cs) (cs.map CustomNetwork.parameters)) := by
  rcases h with ⟨hload, customs, hresult⟩
  have hcustoms : customs = cs.map CustomNetwork.parameters := (Registry.enroll_ok hresult).1
  have hregistry := Registry.registry_eq_known hresult
  have hanswer : Config.answer ⟨cs⟩ q =
      q.answer (Registry.known cs) (cs.map CustomNetwork.parameters) := by
    simp only [Config.answer, hresult, hregistry, hcustoms]
  rw [perform_query, hload]
  exact congrArg t.answered hanswer

/-! ## Answers -/

/-- The text that `checkPrefix b` prints where these are the answers. -/
def prefixLines (b : UInt8) (pubkeyHash scriptHash aztec : Bool) : String :=
  "prefix " ++ byteLiteral b ++ "\n" ++
    "  pubkey hash: " ++ toString pubkeyHash ++ "\n" ++
    "  script hash: " ++ toString scriptHash ++ "\n" ++
    "  aztec:       " ++ toString aztec ++ "\n"

theorem answered_map_code_eq_zero_iff {answer : Except Report String} {f : String → String} :
    (t.answered (answer.map f)).1.code = 0 ↔ ∃ text, answer = .ok text := by
  cases answer with
  | error report =>
      simp [answered, Except.map]
  | ok text =>
      simp [answered, Except.map]

theorem answered_of_code_ne_zero {answer : Except Report String}
    (h : (t.answered answer).1.code ≠ 0) : ∃ stderr, t.answered answer = (⟨1, "", stderr⟩, t) := by
  cases answer with
  | error report =>
      exact ⟨report.print, rfl⟩
  | ok text =>
      exact absurd rfl h

theorem perform_hdPublic {cs : List CustomNetwork} (h : t.Accepts config? cs) (s : String) :
    t.perform ⟨.query (.hdPublic s), config?⟩ =
      t.answered (((Registry.known cs).publicHex s).map (· ++ "\n")) :=
  perform_query_of_accepts h _

theorem hdPublic_prints {cs : List CustomNetwork} (h : t.Accepts config? cs) {s : String}
    {key id : ExtendedKeyId} (hspells : Spells s key.bytes) (hid : LeadsTo cs key id) :
    t.perform ⟨.query (.hdPublic s), config?⟩ = (⟨0, id.toHex ++ "\n", ""⟩, t) := by
  have hhex : (Registry.known cs).publicHex s = .ok id.toHex :=
    Registry.publicHex_eq_ok_iff.2
      ⟨key.bytes, id, hspells, Registry.publicIdOf_of_leadsTo hid, rfl⟩
  rw [perform_hdPublic h, hhex]
  rfl

theorem hdPublic_code_eq_zero_iff {cs : List CustomNetwork} (h : t.Accepts config? cs)
    (s : String) :
    (t.perform ⟨.query (.hdPublic s), config?⟩).1.code = 0 ↔
      ∃ key, Spells s key.bytes ∧ KnownKey cs key := by
  constructor
  · intro hcode
    rw [perform_hdPublic h, answered_map_code_eq_zero_iff] at hcode
    rcases hcode with ⟨text, hhex⟩
    rcases Registry.publicHex_eq_ok_iff.1 hhex with ⟨bytes, id, hspells, hid, -⟩
    rcases Registry.publicIdOf_known_iff.1 hid with ⟨key, rfl, hleads⟩
    exact ⟨key, hspells, exists_leadsTo_iff.1 ⟨id, hleads⟩⟩
  · rintro ⟨key, hspells, hknown⟩
    rcases exists_leadsTo_iff.2 hknown with ⟨id, hleads⟩
    rw [hdPublic_prints h hspells hleads]

/-- How the tool ends on any tree `t` with any `config?`. If `t` rejects the configuration, every
question ends with code 1 and prints no answer. Writing a configuration does not depend on
`config?`, and leaves `Config.sample` in the file if that can be written. If `t` accepts the
networks `cs`, `checkPrefix b` prints the uses that the built-in networks and `cs` make of `b`; and
`hdPublic s` ends with code 0 just when `s` spells a `KnownKey`, and then prints the identifier that
`LeadsTo` gives, of which there is one by `exists_leadsTo_iff`. The field `stderr` is what the tool
reports of itself; log lines are no part of it. -/
theorem query_answers (t : FileTree) (config? : Option String) :
    (t.Rejects config? →
      ∀ q, ∃ stderr, t.perform ⟨.query q, config?⟩ = (⟨1, "", stderr⟩, t)) ∧
    (∀ output other?,
      t.perform ⟨.generateConfig output, config?⟩ = t.perform ⟨.generateConfig output, other?⟩ ∧
      t.perform ⟨.generateConfig output, config?⟩ =
        t.conclude (.write output Config.sample.toToml)) ∧
    ∀ cs, t.Accepts config? cs →
      (∀ b, ∃ pubkeyHash scriptHash aztec : Bool,
        t.perform ⟨.query (.checkPrefix b), config?⟩ =
          (⟨0, prefixLines b pubkeyHash scriptHash aztec, ""⟩, t) ∧
        (pubkeyHash = true ↔
          (∃ n : Network, n.parameters.pubkeyHashPrefix = b) ∨
            ∃ c ∈ cs, c.pubkeyHashPrefix = b) ∧
        (scriptHash = true ↔
          (∃ n : Network, n.parameters.scriptHashPrefix = b) ∨
            ∃ c ∈ cs, c.scriptHashPrefix = b) ∧
        (aztec = true ↔
          b ≠ 0 ∧ ((∃ n : Network, n.parameters.aztecPrefix = b) ∨
            ∃ c ∈ cs, c.aztecPrefix = b))) ∧
      ∀ s,
        ((t.perform ⟨.query (.hdPublic s), config?⟩).1.code = 0 ↔
          ∃ key, Spells s key.bytes ∧ KnownKey cs key) ∧
        ((t.perform ⟨.query (.hdPublic s), config?⟩).1.code ≠ 0 →
          ∃ stderr, t.perform ⟨.query (.hdPublic s), config?⟩ = (⟨1, "", stderr⟩, t)) ∧
        ∀ key id, Spells s key.bytes → LeadsTo cs key id →
          ∃ text, LowerHexOf text id.bytes ∧
            t.perform ⟨.query (.hdPublic s), config?⟩ = (⟨0, text ++ "\n", ""⟩, t) := by
  refine ⟨perform_query_of_rejects, ?_, ?_⟩
  · intro output other?
    have hwritten : ∀ path?, t.perform ⟨.generateConfig output, path?⟩ =
        t.conclude (.write output Config.sample.toToml) := by
      intro path?
      exact perform_generateConfig output
    exact ⟨(hwritten config?).trans (hwritten other?).symm, hwritten config?⟩
  · intro cs h
    constructor
    · intro b
      refine ⟨(Registry.known cs).isPubkeyHashPrefix b, (Registry.known cs).isScriptHashPrefix b,
        (Registry.known cs).isAztecPrefix b, perform_query_of_accepts h _,
        Registry.isPubkeyHashPrefix_known, Registry.isScriptHashPrefix_known,
        Registry.isAztecPrefix_known⟩
    · intro s
      refine ⟨hdPublic_code_eq_zero_iff h s, ?_, ?_⟩
      · intro hcode
        rw [perform_hdPublic h] at hcode ⊢
        exact answered_of_code_ne_zero hcode
      · intro key id hspells hid
        exact ⟨id.toHex, lowerHexOf_hexOfBytes id.bytes, hdPublic_prints h hspells hid⟩

/-! ## The sample configuration -/

/-- A tree with the files `a` and `b` at its root. -/
def ofTwoFiles (first second : ByteArray) : FileTree :=
  { entries := [(["a"], .file first), (["b"], .file second)]
    workplace := [] }

theorem namesOf_singleton : ∀ path ∈ ["a", "b"], namesOf path = [path] := by
  intro path hpath
  rw [List.mem_cons, List.mem_singleton] at hpath
  -- The one character of either path is no slash.
  rcases hpath with rfl | rfl
  all_goals
    rw [namesOf, String.splitOn, if_neg (by decide), String.splitOnAux, if_neg (by decide),
      if_neg (by decide), String.splitOnAux, if_pos (by decide)]
    decide

theorem read_first (first second : ByteArray) :
    (ofTwoFiles first second).read "a" = .ok first := by
  rw [read, locate, namesOf_singleton "a" (by decide)]
  rfl

theorem read_second (first second : ByteArray) :
    (ofTwoFiles first second).read "b" = .ok second := by
  rw [read, locate, namesOf_singleton "b" (by decide)]
  rfl

theorem ofFile_toUTF8 (s : String) : Config.ofFile (.ok s.toUTF8) = Config.ofText s := by
  have hread : String.fromUTF8? s.toUTF8 = some s := dif_pos s.isValidUTF8
  simp only [Config.ofFile, hread]

/-- The sample configuration in `a`, and a text that is no configuration in `b`. -/
def sampleTree : FileTree :=
  ofTwoFiles Config.sample.toToml.toUTF8 "[".toUTF8

theorem decode?_sample : Toml.decode? Config.sample.toToml = some Config.sample := by
  decide +kernel

theorem accepts_sampleTree : sampleTree.Accepts (some "a") Config.sample.customNetworks := by
  have hfile : Config.ofFile (sampleTree.contentAt (some "a")) = .ok Config.sample := by
    rw [contentAt, sampleTree, read_first, ofFile_toUTF8, Config.ofText, decode?_sample]
  refine ⟨?_, _, Registry.enroll_sample⟩
  rw [Config.loaded, hfile]
  rfl

theorem rejects_sampleTree : sampleTree.Rejects (some "b") := by
  have hdecoded : Toml.decode? "[" = (none : Option Config) := by decide +kernel
  have hfile : Config.ofFile (sampleTree.contentAt (some "b")) = .error .unparsable := by
    rw [contentAt, sampleTree, read_second, ofFile_toUTF8, Config.ofText, hdecoded]
  refine Or.inl ⟨LoadError.unparsable.report "b", ?_⟩
  rw [Config.loaded, hfile]
  rfl

/-- With `a` as configuration, the private key identifier of the sample network is answered, also in
capitals, and a text with a digit too few is not. With `b` nothing is answered. -/
theorem sampleTree_answers :
    (sampleTree.Accepts (some "a") Config.sample.customNetworks ∧
      Spells "02FAC398" [0x02, 0xfa, 0xc3, 0x98] ∧
      LeadsTo Config.sample.customNetworks ⟨0x02, 0xfa, 0xc3, 0x98⟩ ⟨0x02, 0xfa, 0xca, 0xfd⟩ ∧
      ∃ text, LowerHexOf text [0x02, 0xfa, 0xca, 0xfd] ∧
        sampleTree.perform ⟨.query (.hdPublic "02FAC398"), some "a"⟩ =
          (⟨0, text ++ "\n", ""⟩, sampleTree)) ∧
    ((sampleTree.perform ⟨.query (.hdPublic "02fac39"), some "a"⟩).1.code ≠ 0 ∧
      ∃ stderr, sampleTree.perform ⟨.query (.hdPublic "02fac39"), some "a"⟩ =
        (⟨1, "", stderr⟩, sampleTree)) ∧
    (sampleTree.Rejects (some "b") ∧
      ∃ stderr, sampleTree.perform ⟨.query (.hdPublic "02fac398"), some "b"⟩ =
        (⟨1, "", stderr⟩, sampleTree)) := by
  have haccepted := (query_answers sampleTree (some "a")).2.2 _ accepts_sampleTree
  have hrejected := (query_answers sampleTree (some "b")).1 rejects_sampleTree
  have hspells : Spells "02FAC398" (ExtendedKeyId.mk 0x02 0xfa 0xc3 0x98).bytes := by
    unfold Spells
    decide +kernel
  have hid : LeadsTo Config.sample.customNetworks ⟨0x02, 0xfa, 0xc3, 0x98⟩
      ⟨0x02, 0xfa, 0xca, 0xfd⟩ :=
    Or.inl ⟨[], _, [], rfl, rfl, by simp, rfl⟩
  have hshort : (sampleTree.perform ⟨.query (.hdPublic "02fac39"), some "a"⟩).1.code ≠ 0 := by
    rw [Ne, (haccepted.2 "02fac39").1]
    rintro ⟨key, hdigits, -⟩
    -- Seven digits are not the halves of four bytes.
    have hlength := length_of_mapM hdigits
    rw [length_halves] at hlength
    cases hlength
  exact ⟨⟨accepts_sampleTree, hspells, hid, (haccepted.2 "02FAC398").2.2 _ _ hspells hid⟩,
    ⟨hshort, (haccepted.2 "02fac39").2.1 hshort⟩, rejects_sampleTree, hrejected _⟩

end FileTree
end ChainParams
