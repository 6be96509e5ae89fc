import ChainParams.Config.Enrollment
import ChainParams.Config.Sample
import ChainParams.Proofs.Registration
import ChainParams.Proofs.Validation

/-!
# EnrollmentOrder — how far the registration of a configuration gets

The networks of a configuration are registered in their order, up to the first one that is blocked:
by a name that belongs to a built-in network, or by a magic that the registry or an earlier entry
has. Main statement: `enroll_stops_at_first_blocked`. No other failure is possible, as a network
inherits all parameters that have to be valid from a built-in one.
-/

namespace ChainParams

/-! ## Parameters of a custom network -/

@[simp] theorem CustomNetwork.name_parameters (c : CustomNetwork) :
    c.parameters.name = c.name := rfl

@[simp] theorem CustomNetwork.networkMagic_parameters (c : CustomNetwork) :
    c.parameters.networkMagic = c.magic := rfl

/-! ## Names of built-in networks -/

theorem Network.ofName?_isSome_iff {s : String} :
    (Network.ofName? s).isSome = true ↔ ∃ n : Network, n.name = s := by
  constructor
  · intro h
    rcases Option.isSome_iff_exists.1 h with ⟨n, hn⟩
    exact ⟨n, Network.name_of_ofName? hn⟩
  · rintro ⟨n, rfl⟩
    simp [Network.ofName?_name]

namespace Registry

variable {r : Registry} {c : CustomNetwork} {cs : List CustomNetwork} {k : Nat}

/-- Entry `k` of `cs` has a built-in name, or a magic that `r` or an entry before it has. -/
def Blocked (r : Registry) (cs : List CustomNetwork) (k : Nat) : Prop :=
  ∃ h : k < cs.length,
    (∃ n : Network, n.name = cs[k].name) ∨ r.isRegistered cs[k].magic = true ∨
      ∃ d ∈ cs.take k, d.magic = cs[k].magic

theorem blocked_zero_iff :
    r.Blocked (c :: cs) 0 ↔
      (∃ n : Network, n.name = c.name) ∨ r.isRegistered c.magic = true := by
  simp [Blocked]

theorem fresh_of_not_blocked (h : ¬ r.Blocked (c :: cs) 0) :
    r.isRegistered c.parameters.networkMagic = false := by
  rw [blocked_zero_iff, not_or] at h
  exact Bool.eq_false_iff.2 h.2

/-- Entry `k + 1` of `c :: cs` is blocked in `r` just if entry `k` of `cs` is once `c` has been
entered. -/
theorem blocked_succ_iff :
    r.Blocked (c :: cs) (k + 1) ↔ (r.enter c.parameters).Blocked cs k := by
  simp [Blocked, or_assoc]

/-- No entry is `Blocked` just if none has a built-in name, no magic is registered in `r`, and no
two are the same. -/
theorem forall_not_blocked_iff :
    (∀ k, ¬ r.Blocked cs k) ↔
      (∀ c ∈ cs, ¬ ∃ n : Network, n.name = c.name) ∧
      (∀ c ∈ cs, r.isRegistered c.magic = false) ∧ (cs.map CustomNetwork.magic).Nodup := by
  induction cs generalizing r with
  | nil =>
      simp [Blocked]
  | cons c cs ih =>
      have hsplit : (∀ k, ¬ r.Blocked (c :: cs) k) ↔
          ¬ r.Blocked (c :: cs) 0 ∧ ∀ k, ¬ (r.enter c.parameters).Blocked cs k := by
        constructor
        · intro h
          exact ⟨h 0, fun k hk => h (k + 1) (blocked_succ_iff.2 hk)⟩
        · rintro ⟨hfirst, hrest⟩ k hk
          cases k with
          | zero =>
              exact hfirst hk
          | succ k =>
              exact hrest k (blocked_succ_iff.1 hk)
      rw [hsplit, ih, blocked_zero_iff]
      simp only [not_or, not_registered_enter_iff, CustomNetwork.networkMagic_parameters,
        List.mem_cons, forall_eq_or_imp, List.map_cons, List.nodup_cons, List.mem_map, not_exists,
        not_and, Bool.not_eq_true, ne_eq]
      grind

/-! ## One entry -/

theorem enroll_cons_of_shadowing (h : ∃ n : Network, n.name = c.name) :
    r.enroll (c :: cs) = ⟨r, [], .error (.shadowsBuiltin c.name)⟩ := by
  have hname : (Network.ofName? c.name).isSome = true := Network.ofName?_isSome_iff.2 h
  simp [enroll, hname]

theorem enroll_cons_of_registered (hname : ¬ ∃ n : Network, n.name = c.name)
    (h : r.isRegistered c.magic = true) :
    r.enroll (c :: cs) =
      ⟨r, [.alreadyRegistered c.name c.magic],
        .error (.refused c.name (.duplicateNetwork c.magic))⟩ := by
  have hfree : (Network.ofName? c.name).isSome = false := by
    simpa [← Network.ofName?_isSome_iff] using hname
  have hregister := register_of_registered (p := c.parameters) h
  simp [enroll, hfree, CustomNetwork.validate_parameters, hregister]

theorem enroll_cons_of_not_blocked (h : ¬ r.Blocked (c :: cs) 0) :
    r.enroll (c :: cs) =
      ((r.enter c.parameters).enroll cs).after c.parameters (r.remapping? c.parameters) := by
  have hregister := register_of_fresh (fresh_of_not_blocked h)
  rw [blocked_zero_iff, not_or] at h
  have hfree : (Network.ofName? c.name).isSome = false := by
    simpa [← Network.ofName?_isSome_iff] using h.1
  simp [enroll, hfree, CustomNetwork.validate_parameters, hregister]

/-! ## Whole lists -/

theorem enroll_of_not_blocked (h : ∀ k, ¬ r.Blocked cs k) :
    (r.enroll cs).result = .ok (cs.map CustomNetwork.parameters) ∧
      (r.enroll cs).registry = r.registerAll (cs.map CustomNetwork.parameters) := by
  induction cs generalizing r with
  | nil =>
      exact ⟨rfl, rfl⟩
  | cons c cs ih =>
      -- The entries behind the first one are those of the list that follows it.
      have hfirst := h 0
      have hrest : ∀ k, ¬ (r.enter c.parameters).Blocked cs k := by
        intro k hk
        exact h (k + 1) (blocked_succ_iff.2 hk)
      rcases ih hrest with ⟨hresult, hregistry⟩
      rw [enroll_cons_of_not_blocked hfirst, List.map_cons,
        registerAll_cons_of_fresh (fresh_of_not_blocked hfirst)]
      exact ⟨by simp [Enrollment.after, hresult, Except.map], hregistry⟩

/-- If `k` is the first blocked entry, `enroll` registers the entries before it and no others. Its
error is `.shadowsBuiltin` for a built-in name, and otherwise `.refused` with the magic of entry
`k`. -/
theorem enroll_of_first_blocked (hk : k < cs.length) (hblocked : r.Blocked cs k)
    (hleast : ∀ j < k, ¬ r.Blocked cs j) :
    (r.enroll cs).registry = r.registerAll ((cs.take k).map CustomNetwork.parameters) ∧
      ((∃ n : Network, n.name = cs[k].name) →
        (r.enroll cs).result = .error (.shadowsBuiltin cs[k].name)) ∧
      ((¬ ∃ n : Network, n.name = cs[k].name) →
        (r.enroll cs).result =
          .error (.refused cs[k].name (.duplicateNetwork cs[k].magic))) := by
  induction cs generalizing r k with
  | nil =>
      simp at hk
  | cons c cs ih =>
      cases k with
      | zero =>
          -- The name is looked at before the magic.
          by_cases hname : ∃ n : Network, n.name = c.name
          · simp [enroll_cons_of_shadowing hname, hname]
          · have htaken : r.isRegistered c.magic = true :=
              (blocked_zero_iff.1 hblocked).resolve_left hname
            simp [enroll_cons_of_registered hname htaken, hname]
      | succ k =>
          have hfirst := hleast 0 (Nat.succ_pos k)
          have hrest : ∀ j < k, ¬ (r.enter c.parameters).Blocked cs j := by
            intro j hj hlater
            exact hleast (j + 1) (Nat.succ_lt_succ hj) (blocked_succ_iff.2 hlater)
          rcases ih (Nat.lt_of_succ_lt_succ hk) (blocked_succ_iff.1 hblocked) hrest with
            ⟨hregistry, hshadows, hrefused⟩
          rw [enroll_cons_of_not_blocked hfirst, List.take_succ_cons, List.map_cons,
            registerAll_cons_of_fresh (fresh_of_not_blocked hfirst)]
          refine ⟨hregistry, ?_, ?_⟩
          · intro hname
            simp [Enrollment.after, hshadows hname, Except.map]
          · intro hname
            simp [Enrollment.after, hrefused hname, Except.map]

/-- If `enroll` accepts `cs`, no entry is `Blocked`, since the first one would have ended it. -/
theorem not_blocked_of_enroll_ok {ps : List Parameters} (h : (r.enroll cs).result = .ok ps)
    (k : Nat) : ¬ r.Blocked cs k := by
  induction k using Nat.strongRecOn with
  | ind k ih =>
      intro hblocked
      rcases hblocked with ⟨hk, hcause⟩
      rcases enroll_of_first_blocked hk ⟨hk, hcause⟩ ih with ⟨_, hshadows, hrefused⟩
      by_cases hname : ∃ n : Network, n.name = cs[k].name
      · have herror := hshadows hname
        simp [h] at herror
      · have herror := hrefused hname
        simp [h] at herror

/-- If `enroll` accepts `cs`, it gives the parameters of its networks, and has registered all of
them. -/
theorem enroll_ok {ps : List Parameters} (h : (r.enroll cs).result = .ok ps) :
    ps = cs.map CustomNetwork.parameters ∧ (r.enroll cs).registry = r.registerAll ps := by
  rcases enroll_of_not_blocked (not_blocked_of_enroll_ok h) with ⟨hresult, hregistry⟩
  rw [hresult] at h
  cases h
  exact ⟨rfl, hregistry⟩

/-- The result of `enroll` is `.ok`, `.shadowsBuiltin` or `.refused`, but not `.invalid`: what a
custom network inherits is valid. -/
theorem enroll_cases (r : Registry) (cs : List CustomNetwork) :
    (r.enroll cs).result = .ok (cs.map CustomNetwork.parameters) ∨
      (∃ name, (r.enroll cs).result = .error (.shadowsBuiltin name)) ∨
      ∃ name cause, (r.enroll cs).result = .error (.refused name cause) := by
  induction cs generalizing r with
  | nil =>
      exact Or.inl rfl
  | cons c cs ih =>
      by_cases hname : ∃ n : Network, n.name = c.name
      · exact Or.inr (Or.inl ⟨c.name, by rw [enroll_cons_of_shadowing hname]⟩)
      by_cases htaken : r.isRegistered c.magic = true
      · exact Or.inr (Or.inr ⟨c.name, _, by rw [enroll_cons_of_registered hname htaken]⟩)
      have hfirst : ¬ r.Blocked (c :: cs) 0 := by
        rw [blocked_zero_iff, not_or]
        exact ⟨hname, htaken⟩
      rw [enroll_cons_of_not_blocked hfirst]
      -- How the rest ends is how the whole list ends.
      rcases ih (r.enter c.parameters) with hrest | ⟨name, hrest⟩ | ⟨name, cause, hrest⟩
      · left
        simp [Enrollment.after, hrest, Except.map]
      · right
        left
        exact ⟨name, by simp [Enrollment.after, hrest, Except.map]⟩
      · right
        right
        exact ⟨name, cause, by simp [Enrollment.after, hrest, Except.map]⟩

theorem enroll_again {ps : List Parameters} (h : (r.enroll (c :: cs)).result = .ok ps) :
    ((r.enroll (c :: cs)).registry.enroll (c :: cs)).result =
        .error (.refused c.name (.duplicateNetwork c.magic)) ∧
      ((r.enroll (c :: cs)).registry.enroll (c :: cs)).registry =
        (r.enroll (c :: cs)).registry := by
  -- Nothing was blocked, so the first entry is registered when the list comes again.
  have hnone := not_blocked_of_enroll_ok h
  have hname : ¬ ∃ n : Network, n.name = c.name := by
    intro hname
    exact hnone 0 (blocked_zero_iff.2 (Or.inl hname))
  have htaken : (r.enroll (c :: cs)).registry.isRegistered c.magic = true := by
    rw [(enroll_of_not_blocked hnone).2, isRegistered_registerAll]
    exact Or.inr ⟨c.parameters, by simp, rfl⟩
  simp [enroll_cons_of_registered hname htaken]

/-- From `builtin`, `enroll` accepts `cs` if its names are not built in and its magics are new. The
hypotheses can be decided by evaluation. -/
theorem enroll_builtin_ok (hnames : ∀ c ∈ cs, Network.ofName? c.name = none)
    (hmagics : ∀ c ∈ cs, ∀ p ∈ catalog, p.networkMagic ≠ c.magic)
    (hnodup : (cs.map CustomNetwork.magic).Nodup) :
    (builtin.enroll cs).result = .ok (cs.map CustomNetwork.parameters) := by
  refine (enroll_of_not_blocked (forall_not_blocked_iff.2 ⟨?_, ?_, hnodup⟩)).1
  · intro c hc hbuiltin
    have hsome := Network.ofName?_isSome_iff.2 hbuiltin
    rw [hnames c hc] at hsome
    cases hsome
  · intro c hc
    rw [← Bool.not_eq_true, isRegistered_builtin_iff]
    rintro ⟨p, hp, hmagic⟩
    exact hmagics c hc p hp hmagic

/-- The networks of `Config.sample` are accepted beside the built-in ones. -/
theorem enroll_sample :
    (builtin.enroll Config.sample.customNetworks).result =
      .ok (Config.sample.customNetworks.map CustomNetwork.parameters) :=
  enroll_builtin_ok (by decide) (by decide +kernel) (by decide)

/-! ## Main statement -/

/-- If no entry of `cs` is `Blocked`, `enroll` registers all networks in their order. Otherwise the
first blocked entry `k` ends it: only the entries before `k` are registered, and the error names a
built-in name before it names a magic that is taken. A list that was accepted is refused at its
first entry the second time. -/
theorem enroll_stops_at_first_blocked (r : Registry) (cs : List CustomNetwork) :
    ((∀ k, ¬ r.Blocked cs k) →
      (r.enroll cs).result = .ok (cs.map CustomNetwork.parameters) ∧
        (r.enroll cs).registry = r.registerAll (cs.map CustomNetwork.parameters)) ∧
    (∀ (k : Nat) (hk : k < cs.length), r.Blocked cs k → (∀ j < k, ¬ r.Blocked cs j) →
      (r.enroll cs).registry = r.registerAll ((cs.take k).map CustomNetwork.parameters) ∧
      ((∃ n : Network, n.name = cs[k].name) →
        (r.enroll cs).result = .error (.shadowsBuiltin cs[k].name)) ∧
      ((¬ ∃ n : Network, n.name = cs[k].name) →
        (r.enroll cs).result =
          .error (.refused cs[k].name (.duplicateNetwork cs[k].magic)))) ∧
    (∀ c rest ps, cs = c :: rest → (r.enroll cs).result = .ok ps →
      ((r.enroll cs).registry.enroll cs).result =
          .error (.refused c.name (.duplicateNetwork c.magic)) ∧
        ((r.enroll cs).registry.enroll cs).registry = (r.enroll cs).registry) := by
  refine ⟨enroll_of_not_blocked, ?_, ?_⟩
  · intro k hk hblocked hleast
    exact enroll_of_first_blocked hk hblocked hleast
  · rintro c rest ps rfl hok
    exact enroll_again hok

/-- From `builtin`, a list with the sample network twice is `Blocked` at entry 1: the first network
is registered, and the second one refused for its magic. -/
theorem enroll_stops_at_repeated_sample :
    (builtin.Blocked (Config.sample.customNetworks ++ Config.sample.customNetworks) 1 ∧
      ∀ j < 1, ¬ builtin.Blocked (Config.sample.customNetworks ++ Config.sample.customNetworks) j) ∧
    (builtin.enroll (Config.sample.customNetworks ++ Config.sample.customNetworks)).registry =
      builtin.registerAll (Config.sample.customNetworks.map CustomNetwork.parameters) ∧
    (builtin.enroll (Config.sample.customNetworks ++ Config.sample.customNetworks)).result =
      .error (.refused "devnet" (.duplicateNetwork ⟨0xfeedbeef⟩)) := by
  have hname : ¬ ∃ n : Network, n.name = "devnet" := by
    rintro ⟨n, hn⟩
    cases n <;> simp [Network.name] at hn
  have hmagic : builtin.isRegistered ⟨0xfeedbeef⟩ = false := by
    rw [← Bool.not_eq_true, isRegistered_builtin_iff]
    decide +kernel
  have hblocked : builtin.Blocked
      (Config.sample.customNetworks ++ Config.sample.customNetworks) 1 := by
    refine ⟨by decide, Or.inr (Or.inr ?_)⟩
    decide
  have hleast : ∀ j < 1, ¬ builtin.Blocked
      (Config.sample.customNetworks ++ Config.sample.customNetworks) j := by
    intro j hj hj0
    obtain rfl : j = 0 := by omega
    rcases blocked_zero_iff.1 hj0 with h | h
    · exact hname h
    · rw [hmagic] at h
      cases h
  rcases (enroll_stops_at_first_blocked builtin
      (Config.sample.customNetworks ++ Config.sample.customNetworks)).2.1 1 (by decide) hblocked
        hleast
    with ⟨hregistry, _, hrefused⟩
  exact ⟨⟨hblocked, hleast⟩, hregistry, hrefused hname⟩

end Registry
end ChainParams
