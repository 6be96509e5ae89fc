import ChainParams.Proofs.EnrollmentOrder

/-!
# Inheritance — a network made from a valid one is valid

A custom network replaces only what identifies a network, and no rule looks at that. Main statement:
`derivation_keeps_validity`. So the rules can be tried on the networks of a configuration, but none
of these is ever turned down by them.
-/

namespace ChainParams

/-! ## The text of the failure -/

/-- The message `custom network … is invalid` comes of `.invalid` only, whatever the networks are
called. -/
theorem EnrollmentError.message_ne_invalid {e : EnrollmentError}
    (h : ∀ name cause, e ≠ .invalid name cause) (name : String) :
    e.report.message ≠ "custom network " ++ name ++ " is invalid" := by
  intro hsame
  cases e with
  | shadowsBuiltin other =>
      -- The two texts end with different letters.
      have htexts : "custom network " ++ other ++ " shadows a built-in network" =
          "custom network " ++ name ++ " is invalid" := hsame
      have hlast := congrArg (fun s => s.toList.getLast?) htexts
      have hleft : " shadows a built-in network".toList.getLast? = some 'k' := by decide
      have hright : " is invalid".toList.getLast? = some 'd' := by decide
      simp only [String.toList_append, List.getLast?_append, hleft, hright, Option.some_or] at hlast
      simp at hlast
  | refused other cause =>
      -- The two texts differ in their second letters.
      have htexts : "cannot register custom network " ++ other =
          "custom network " ++ name ++ " is invalid" := hsame
      have hsecond := congrArg (fun s => s.toList[1]?) htexts
      simp [String.toList_append] at hsecond
  | invalid other cause =>
      exact h other cause rfl

namespace Registry

variable {r : Registry} {cs : List CustomNetwork}

theorem enroll_ne_invalid {e : EnrollmentError} (h : (r.enroll cs).result = .error e)
    (name : String) (cause : ParamsError) : e ≠ .invalid name cause := by
  rintro rfl
  rcases enroll_cases r cs with hend | ⟨_, hend⟩ | ⟨_, _, hend⟩
  · rw [h] at hend
    cases hend
  · rw [h] at hend
    cases hend
  · rw [h] at hend
    cases hend

theorem validate_of_enroll_ok {ps : List Parameters} (h : (r.enroll cs).result = .ok ps)
    {p : Parameters} (hp : p ∈ ps) : p.validate = .ok () := by
  rcases enroll_ok h with ⟨rfl, _⟩
  rcases List.mem_map.1 hp with ⟨c, _, rfl⟩
  exact c.validate_parameters

end Registry

/-! ## Main statement -/

/-- The parameters of a custom network agree with its base in all fields but those of
`withIdentity`, and `validate` depends on no others. So every custom network is valid, `enroll`
never reports one as invalid, and everything that it registers is valid. -/
theorem derivation_keeps_validity :
    (∀ c : CustomNetwork, c.base.parameters.SameUpToIdentity c.parameters) ∧
    (∀ p q : Parameters, p.SameUpToIdentity q → p.validate = q.validate) ∧
    (∀ c : CustomNetwork, c.parameters.validate = .ok ()) ∧
    (∀ (r : Registry) (cs : List CustomNetwork) (e : EnrollmentError),
      (r.enroll cs).result = .error e →
      ∀ name, e.report.message ≠ "custom network " ++ name ++ " is invalid") ∧
    (∀ (r : Registry) (cs : List CustomNetwork) (ps : List Parameters),
      (r.enroll cs).result = .ok ps → ∀ p ∈ ps, p.validate = .ok ()) := by
  refine ⟨CustomNetwork.sameUpToIdentity_base, fun _ _ => Parameters.validate_congr,
    CustomNetwork.validate_parameters, ?_, ?_⟩
  · intro r cs e h name
    exact EnrollmentError.message_ne_invalid (Registry.enroll_ne_invalid h) name
  · intro r cs ps h p hp
    exact Registry.validate_of_enroll_ok h hp

/-- The sample network is accepted and valid. Renamed to `regtest` it fails as `.shadowsBuiltin`,
not as invalid; and with `averagingWindow := 0` parameters are rejected alike under either name. -/
theorem derivation_of_sample :
    (Registry.builtin.enroll Config.sample.customNetworks).result =
        .ok (Config.sample.customNetworks.map CustomNetwork.parameters) ∧
    (∀ p ∈ Config.sample.customNetworks.map CustomNetwork.parameters, p.validate = .ok ()) ∧
    (Registry.builtin.enroll (Config.sample.customNetworks.map
      fun c => { c with name := "regtest" })).result = .error (.shadowsBuiltin "regtest") ∧
    (EnrollmentError.shadowsBuiltin "regtest").report.message ≠
      "custom network " ++ "regtest" ++ " is invalid" ∧
    { Catalog.regtest with averagingWindow := 0 }.validate =
      { Catalog.regtest with averagingWindow := 0, name := "devnet" }.validate := by
  rcases derivation_keeps_validity with ⟨_, hcongr, _, htext, hvalid⟩
  have hok := Registry.enroll_sample
  have hshadows : (Registry.builtin.enroll (Config.sample.customNetworks.map
      fun c => { c with name := "regtest" })).result = .error (.shadowsBuiltin "regtest") := rfl
  exact ⟨hok, hvalid _ _ _ hok, hshadows, htext _ _ _ hshadows "regtest", hcongr _ _ rfl⟩

end ChainParams
