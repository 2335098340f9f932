import Ascos.Providers.InFlight
import Mathlib.Data.String.Basic

/-!
# Routing

`ProviderRouter.select` of `runtime/providers/health/routing.py` beside
`CircuitBreaker.allow`, on the records that both read.

Main results:

- Theorem `routing_and_admission`: which route is selected, and on which records the filter
  of the routes and the admission of the breaker agree.
-/

namespace Ascos
namespace Providers

open Library Library.Program
open Ascos.Runtime (Timestamp)

/-! ## The router -/

structure ProviderRoute where
  providerId : String
  capability : String
  priority : Int := 100
deriving DecidableEq

/-- The order of `key=lambda item: (item.priority, item.provider_id)`. -/
def ProviderRoute.Precedes (route other : ProviderRoute) : Prop :=
  route.priority < other.priority ∨
    route.priority = other.priority ∧ route.providerId < other.providerId

instance (route other : ProviderRoute) : Decidable (route.Precedes other) :=
  inferInstanceAs (Decidable (_ ∨ _))

/-- `min(eligible, key=lambda item: (item.priority, item.provider_id))`: the first of the least
routes. -/
def leastRoute (route : ProviderRoute) (routes : List ProviderRoute) : ProviderRoute :=
  routes.foldl (fun least other => if other.Precedes least then other else least) route

/-- The filter of `ProviderRouter.select` on the record of a route. -/
def routable (state : ProviderHealthState) : Bool :=
  !(decide (state.status = .open ∨ state.status = .disabled) ||
    decide (state.maximumInFlight ≤ state.currentInFlight))

/-- The loop of `ProviderRouter.select`. -/
def eligible (capability : String) : List ProviderRoute → Health (List ProviderRoute)
  | [] => pure []
  | route :: routes =>
    if route.capability ≠ capability then eligible capability routes
    else do
      let state ← get route.providerId capability
      let rest ← eligible capability routes
      pure (if routable state = true then route :: rest else rest)

def select (routes : List ProviderRoute) (capability : String)
    (affinityProviderId : Option String) : Health ProviderRoute := do
  let eligible ← eligible capability routes
  match affinityProviderId.bind fun affinity => eligible.find? (·.providerId = affinity) with
  | some route => pure route
  | none =>
    match eligible with
    | route :: routes => pure (leastRoute route routes)
    | [] => throw ⟨.providerUnavailableError, "No healthy provider supports capability"⟩

/-! ## What is selected -/

theorem ProviderRoute.Precedes.trans {a b c : ProviderRoute} (hab : a.Precedes b)
    (hbc : b.Precedes c) : a.Precedes c := by
  rcases hab with hab | ⟨hab, hab'⟩ <;> rcases hbc with hbc | ⟨hbc, hbc'⟩
  · exact .inl (Int.lt_trans hab hbc)
  · exact .inl (hbc ▸ hab)
  · exact .inl (hab ▸ hbc)
  · exact .inr ⟨hab.trans hbc, lt_trans hab' hbc'⟩

theorem ProviderRoute.Precedes.split {a c : ProviderRoute} (h : a.Precedes c)
    (b : ProviderRoute) : a.Precedes b ∨ b.Precedes c := by
  rcases Int.lt_trichotomy a.priority b.priority with hab | hab | hab
  · exact .inl (.inl hab)
  · rcases h with hac | ⟨hac, hac'⟩
    · exact .inr (.inl (hab ▸ hac))
    · by_cases hid : a.providerId < b.providerId
      · exact .inl (.inr ⟨hab, hid⟩)
      · exact .inr (.inr ⟨hab ▸ hac, lt_of_le_of_lt (not_lt.mp hid) hac'⟩)
  · rcases h with hac | ⟨hac, -⟩
    · exact .inr (.inl (Int.lt_trans hab hac))
    · exact .inr (.inl (hac ▸ hab))

theorem ProviderRoute.Precedes.irrefl (a : ProviderRoute) : ¬ a.Precedes a := by
  rintro (h | ⟨-, h⟩)
  · exact Int.lt_irrefl _ h
  · exact lt_irrefl _ h

theorem leastRoute_least (route : ProviderRoute) (routes : List ProviderRoute) :
    leastRoute route routes ∈ route :: routes ∧
      ∀ other ∈ route :: routes, ¬ other.Precedes (leastRoute route routes) := by
  induction routes generalizing route with
  | nil =>
    refine ⟨List.mem_cons_self, fun other hother => ?_⟩
    obtain rfl := List.mem_singleton.mp hother
    exact ProviderRoute.Precedes.irrefl other
  | cons next routes ih =>
    by_cases hnext : next.Precedes route
    · obtain ⟨hmem, hleast⟩ := ih next
      have hfold : leastRoute route (next :: routes) = leastRoute next routes := by
        simp only [leastRoute, List.foldl_cons, hnext, if_true]
      rw [hfold]
      refine ⟨List.mem_cons_of_mem _ hmem, fun other hother => ?_⟩
      rcases List.mem_cons.mp hother with rfl | hother
      · exact fun h => hleast next List.mem_cons_self (hnext.trans h)
      · exact hleast other hother
    · obtain ⟨hmem, hleast⟩ := ih route
      have hfold : leastRoute route (next :: routes) = leastRoute route routes := by
        simp only [leastRoute, List.foldl_cons, hnext, if_false]
      rw [hfold]
      refine ⟨?_, fun other hother => ?_⟩
      · rcases List.mem_cons.mp hmem with h | h
        · rw [h]
          exact List.mem_cons_self
        · exact List.mem_cons_of_mem _ (List.mem_cons_of_mem _ h)
      · rcases List.mem_cons.mp hother with rfl | hother
        · exact hleast _ List.mem_cons_self
        · rcases List.mem_cons.mp hother with rfl | hother
          · intro h
            rcases h.split route with h | h
            · exact hnext h
            · exact hleast route List.mem_cons_self h
          · exact hleast other (List.mem_cons_of_mem _ hother)

section Selection

variable {repository : Repository} {routes : List ProviderRoute} {capability : String}
  {route : ProviderRoute}

/-- The route is one of the capability, and its record passes the filter. -/
structure Eligible (repository : Repository) (routes : List ProviderRoute) (capability : String)
    (route : ProviderRoute) : Prop where
  routed : route ∈ routes
  capable : route.capability = capability
  filtered : ∃ state, repository route.providerId capability = some state ∧ routable state = true

/-- Every route of the capability has a record. -/
def Recorded (repository : Repository) (routes : List ProviderRoute) (capability : String) : Prop :=
  ∀ route ∈ routes, route.capability = capability →
    ∃ state, repository route.providerId capability = some state

theorem exec_get_some {providerId : String} {state : ProviderHealthState}
    (h : repository providerId capability = some state) :
    exec (get providerId capability) repository = (.ok state, repository) := by
  unfold get
  rw [exec_bind, Program.exec_get]
  simp only [h]
  rfl

theorem exec_get_none {providerId : String} (h : repository providerId capability = none) :
    exec (get providerId capability) repository =
      (.error ⟨.providerHealthNotFoundError, "Provider health not found"⟩, repository) := by
  unfold get
  rw [exec_bind, Program.exec_get]
  simp only [h]
  rfl

/-- The loop keeps the routes of the capability whose records pass the filter. -/
theorem exec_eligible (hrecorded : Recorded repository routes capability) :
    exec (eligible capability routes) repository =
      (.ok (routes.filter fun route => decide (route.capability = capability) &&
        (repository route.providerId capability).any routable), repository) := by
  induction routes with
  | nil => rfl
  | cons route routes ih =>
    have ih := ih fun other hother => hrecorded other (List.mem_cons_of_mem _ hother)
    by_cases hcapable : route.capability = capability
    · obtain ⟨state, hstate⟩ := hrecorded route List.mem_cons_self hcapable
      simp only [eligible, hcapable, ne_eq, not_true, if_false]
      rw [exec_bind, exec_get_some hstate]
      simp only [exec_bind, ih, exec_pure]
      by_cases hroutable : routable state = true
      · simp [hcapable, hstate, hroutable]
      · simp [hcapable, hstate, hroutable]
    · simp only [eligible, hcapable, ne_eq, not_false_iff, if_true, ih]
      simp [hcapable]

/-- A route of the capability without a record makes the loop fail. -/
theorem exec_eligible_error (hrecorded : ¬ Recorded repository routes capability) :
    exec (eligible capability routes) repository =
      (.error ⟨.providerHealthNotFoundError, "Provider health not found"⟩, repository) := by
  induction routes with
  | nil => exact absurd (fun route hroute => by simp at hroute) hrecorded
  | cons route routes ih =>
    by_cases hcapable : route.capability = capability
    · simp only [eligible, hcapable, ne_eq, not_true, if_false]
      cases hstate : repository route.providerId capability with
      | none => rw [exec_bind, exec_get_none hstate]
      | some state =>
          have hrest : ¬ Recorded repository routes capability := by
            intro hrest
            refine hrecorded fun other hother hother' => ?_
            rcases List.mem_cons.mp hother with rfl | hother
            · exact ⟨state, hstate⟩
            · exact hrest other hother hother'
          rw [exec_bind, exec_get_some hstate]
          simp only [exec_bind, ih hrest]
    · have hrest : ¬ Recorded repository routes capability := by
        intro hrest
        refine hrecorded fun other hother hother' => ?_
        rcases List.mem_cons.mp hother with rfl | hother
        · exact absurd hother' hcapable
        · exact hrest other hother hother'
      simp only [eligible, hcapable, ne_eq, not_false_iff, if_true, ih hrest]

/-- What `select` returns: the first eligible route of the affinity provider, otherwise the
least eligible one. -/
structure Selected (repository : Repository) (routes : List ProviderRoute) (capability : String)
    (affinity : Option String) (route : ProviderRoute) : Prop where
  eligible : Eligible repository routes capability route
  preferred : ∀ other, Eligible repository routes capability other →
    affinity = some other.providerId → affinity = some route.providerId
  least : (∀ other, Eligible repository routes capability other →
      affinity ≠ some other.providerId) →
    ∀ other, Eligible repository routes capability other → ¬ other.Precedes route

theorem exec_select (affinity : Option String)
    (hrecorded : Recorded repository routes capability) :
    (∃ route, exec (select routes capability affinity) repository = (.ok route, repository) ∧
      Selected repository routes capability affinity route) ∨
    (exec (select routes capability affinity) repository =
      (.error ⟨.providerUnavailableError, "No healthy provider supports capability"⟩,
        repository) ∧ ∀ route, ¬ Eligible repository routes capability route) := by
  have hmem : ∀ route, route ∈ (routes.filter fun route =>
      decide (route.capability = capability) &&
        (repository route.providerId capability).any routable) ↔
      Eligible repository routes capability route := by
    intro route
    rw [List.mem_filter, Bool.and_eq_true, decide_eq_true_eq, Option.any_eq_true]
    constructor
    · rintro ⟨hrouted, hcapable, hfiltered⟩
      exact ⟨hrouted, hcapable, hfiltered⟩
    · rintro ⟨hrouted, hcapable, hfiltered⟩
      exact ⟨hrouted, hcapable, hfiltered⟩
  unfold select
  rw [exec_bind, exec_eligible hrecorded]
  generalize routes.filter _ = found at hmem
  simp only
  cases haffinity : affinity.bind fun affinity => found.find? (·.providerId = affinity) with
  | some route =>
    obtain ⟨provider, rfl, hfind⟩ := Option.bind_eq_some_iff.mp haffinity
    have hroute := (hmem route).mp (List.mem_of_find?_eq_some hfind)
    have hprovider : route.providerId = provider := by simpa using List.find?_some hfind
    refine .inl ⟨route, rfl, hroute, fun _ _ _ => by rw [hprovider], fun hnone => ?_⟩
    exact absurd (by rw [hprovider]) (hnone route hroute)
  | none =>
    have hnone : ∀ other, Eligible repository routes capability other →
        affinity ≠ some other.providerId := by
      rintro other hother rfl
      rw [Option.bind_some, List.find?_eq_none] at haffinity
      exact absurd (decide_eq_true rfl) (haffinity other ((hmem other).mpr hother))
    cases found with
    | cons route found =>
        obtain ⟨hfound, hleast⟩ := leastRoute_least route found
        refine .inl ⟨_, rfl, (hmem _).mp hfound, fun other hother h =>
          absurd h (hnone other hother), fun _ other hother => ?_⟩
        exact hleast other ((hmem other).mpr hother)
    | nil =>
        refine .inr ⟨rfl, fun route hroute => ?_⟩
        exact List.not_mem_nil ((hmem route).mpr hroute)

end Selection

/-! ## Routing and admission -/

section Admission

variable (breaker : CircuitBreaker) (now : Timestamp) {repository : Repository}
  {routes : List ProviderRoute} {capability : String} {state : ProviderHealthState}

/-- The records are filed under their own names. -/
def Keyed (repository : Repository) : Prop :=
  ∀ providerId capability state, repository providerId capability = some state →
    state.providerId = providerId ∧ state.capability = capability

/-- The breaker admits a call of the provider. -/
def Admissible (repository : Repository) (capability : String) (route : ProviderRoute) : Prop :=
  ∃ state, (exec (allow breaker now route.providerId capability) repository).1 = .ok state

/-- The records on which routing and admission differ: an open circuit whose time has come is not
routed, and a half-open one is routed by its capacity and admitted by its probes. -/
def Diverges (state : ProviderHealthState) : Prop :=
  (state.status = .open ∧ ∃ t ∈ state.openUntil, t ≤ now) ∨
    (state.status = .halfOpen ∧
      ¬ (state.halfOpenProbeCount < breaker.maximumHalfOpenProbes ↔
        state.currentInFlight < state.maximumInFlight))

theorem routable_eq (state : ProviderHealthState) : routable state = true ↔
    state.status ≠ .open ∧ state.status ≠ .disabled ∧
      state.currentInFlight < state.maximumInFlight := by
  simp [routable, and_assoc]

/-- The filter of the routes and the breaker agree on the records that do not diverge. -/
theorem routable_iff_admitted (state : ProviderHealthState) :
    (routable state = true ↔ (admitted breaker now state).isSome = true) ↔
      ¬ Diverges breaker now state := by
  rw [routable_eq]
  unfold admitted Diverges
  cases hstatus : state.status
  case «open» =>
    cases huntil : state.openUntil with
    | none => simp
    | some t =>
        by_cases hwait : now < t
        · simp [hwait]
        · simp [hwait, Int.not_lt.mp hwait]
  case halfOpen =>
    by_cases hfree : state.halfOpenProbeCount < breaker.maximumHalfOpenProbes
    · simp [hfree, Nat.not_le.mpr hfree]
    · simp [hfree, Nat.not_lt.mp hfree]
  case disabled => simp
  all_goals
    by_cases hroom : state.currentInFlight < state.maximumInFlight
    · simp [hroom, Nat.not_le.mpr hroom]
    · simp [hroom, Nat.not_lt.mp hroom]

variable {breaker now}

theorem admissible_iff (hkeyed : Keyed repository) {route : ProviderRoute}
    (hstate : repository route.providerId capability = some state) :
    Admissible breaker now repository capability route ↔
      (admitted breaker now state).isSome = true := by
  obtain ⟨hprovider, hcapability⟩ := hkeyed _ _ _ hstate
  have hfile : OnFile repository state := ⟨by rw [hprovider, hcapability]; exact hstate⟩
  have hallow := exec_allow breaker now hfile
  rw [hprovider, hcapability] at hallow
  unfold Admissible
  cases hadmitted : admitted breaker now state with
  | some state' =>
    rw [hadmitted] at hallow
    simp [hallow]
  | none =>
    rw [hadmitted] at hallow
    obtain ⟨error, hallow⟩ := hallow
    simp [hallow]

theorem eligible_iff_admissible (hkeyed : Keyed repository) {route : ProviderRoute}
    (hrouted : route ∈ routes) (hcapable : route.capability = capability)
    (hstate : repository route.providerId capability = some state) :
    (Eligible repository routes capability route ↔
      Admissible breaker now repository capability route) ↔ ¬ Diverges breaker now state := by
  have heligible : Eligible repository routes capability route ↔ routable state = true := by
    constructor
    · rintro ⟨-, -, other, hother, hroutable⟩
      obtain rfl := Option.some.inj (hother.symm.trans hstate)
      exact hroutable
    · exact fun hroutable => ⟨hrouted, hcapable, state, hstate, hroutable⟩
  rw [heligible, admissible_iff hkeyed hstate]
  exact routable_iff_admitted breaker now state

end Admission

/-- A selection is the affinity provider or the least route among the eligible ones, exists when
some route is eligible, and fails where a route of the capability has no record.  Eligible routes
are the admitted ones on exactly the records that do not diverge; so without such records routing
agrees with admission. -/
theorem routing_and_admission (breaker : CircuitBreaker) (now : Timestamp)
    (repository : Repository) (hkeyed : Keyed repository) (routes : List ProviderRoute)
    (capability : String) (affinity : Option String) :
    (exec (select routes capability affinity) repository).2 = repository ∧
    (¬ Recorded repository routes capability →
      (exec (select routes capability affinity) repository).1 =
        .error ⟨.providerHealthNotFoundError, "Provider health not found"⟩) ∧
    (Recorded repository routes capability →
      ((∃ route, (exec (select routes capability affinity) repository).1 = .ok route) ↔
        ∃ route, Eligible repository routes capability route) ∧
      ∀ route, (exec (select routes capability affinity) repository).1 = .ok route →
        Selected repository routes capability affinity route) ∧
    (∀ route ∈ routes, route.capability = capability →
      ∀ state, repository route.providerId capability = some state →
        ((Eligible repository routes capability route ↔
          Admissible breaker now repository capability route) ↔ ¬ Diverges breaker now state)) ∧
    (Recorded repository routes capability →
      (∀ route ∈ routes, route.capability = capability →
        ∀ state, repository route.providerId capability = some state →
          ¬ Diverges breaker now state) →
      ((∃ route, (exec (select routes capability affinity) repository).1 = .ok route) ↔
        ∃ route ∈ routes, route.capability = capability ∧
          Admissible breaker now repository capability route) ∧
      ∀ route, (exec (select routes capability affinity) repository).1 = .ok route →
        Admissible breaker now repository capability route) := by
  have hagree : ∀ route ∈ routes, route.capability = capability →
      ∀ state, repository route.providerId capability = some state →
        ((Eligible repository routes capability route ↔
          Admissible breaker now repository capability route) ↔ ¬ Diverges breaker now state) :=
    fun route hrouted hcapable state hstate =>
      eligible_iff_admissible hkeyed hrouted hcapable hstate
  by_cases hrecorded : Recorded repository routes capability
  · have hresult : ((∃ route,
        (exec (select routes capability affinity) repository).1 = .ok route) ↔
          ∃ route, Eligible repository routes capability route) ∧
        (exec (select routes capability affinity) repository).2 = repository ∧
        ∀ route, (exec (select routes capability affinity) repository).1 = .ok route →
          Selected repository routes capability affinity route := by
      rcases exec_select affinity hrecorded with ⟨route, hrun, hselected⟩ | ⟨hrun, hnone⟩
      · rw [hrun]
        refine ⟨⟨fun _ => ⟨route, hselected.eligible⟩, fun _ => ⟨route, rfl⟩⟩, rfl, ?_⟩
        rintro other hother
        cases hother
        exact hselected
      · rw [hrun]
        simp [hnone]
    obtain ⟨hiff, hsame, hselected⟩ := hresult
    refine ⟨hsame, fun h => absurd hrecorded h, fun _ => ⟨hiff, hselected⟩, hagree,
      fun _ hclear => ⟨?_, fun route hroute => ?_⟩⟩
    · rw [hiff]
      constructor
      · rintro ⟨route, hroute⟩
        obtain ⟨hrouted, hcapable, state, hstate, -⟩ := id hroute
        have hsame := (hagree route hrouted hcapable state hstate).mpr
          (hclear route hrouted hcapable state hstate)
        exact ⟨route, hrouted, hcapable, hsame.mp hroute⟩
      · rintro ⟨route, hrouted, hcapable, hadmissible⟩
        obtain ⟨state, hstate⟩ := hrecorded route hrouted hcapable
        have hsame := (hagree route hrouted hcapable state hstate).mpr
          (hclear route hrouted hcapable state hstate)
        exact ⟨route, hsame.mpr hadmissible⟩
    · have hroute := (hselected route hroute).eligible
      obtain ⟨hrouted, hcapable, state, hstate, -⟩ := id hroute
      exact ((hagree route hrouted hcapable state hstate).mpr
        (hclear route hrouted hcapable state hstate)).mp hroute
  · have hrun : exec (select routes capability affinity) repository =
        (.error ⟨.providerHealthNotFoundError, "Provider health not found"⟩, repository) := by
      unfold select
      rw [exec_bind, exec_eligible_error hrecorded]
    rw [hrun]
    exact ⟨rfl, fun _ => rfl, fun h => absurd h hrecorded, hagree, fun h => absurd h hrecorded⟩

/-! ## An open circuit whose time has come -/

/-- A provider whose circuit may be probed from the first instant on. -/
def expiredProvider : ProviderHealthState :=
  { ProviderHealthState.initial "primary" "chat" 0 with status := .open, openUntil := some 0 }

def expiredRepository : Repository := fun providerId capability =>
  if providerId = "primary" ∧ capability = "chat" then some expiredProvider else none

theorem expiredRepository_keyed : Keyed expiredRepository := by
  intro providerId capability state h
  obtain ⟨⟨rfl, rfl⟩, hstate⟩ := Option.ite_none_right_eq_some.mp h
  obtain rfl := Option.some.inj hstate
  exact ⟨rfl, rfl⟩

/-- Nothing is selected for a provider whose open circuit would be probed. -/
theorem routing_and_admission_expired :
    Diverges {} 0 expiredProvider ∧
      ¬ (Eligible expiredRepository [⟨"primary", "chat", 100⟩] "chat" ⟨"primary", "chat", 100⟩ ↔
        Admissible {} 0 expiredRepository "chat" ⟨"primary", "chat", 100⟩) := by
  have hdiverges : Diverges {} 0 expiredProvider := .inl ⟨rfl, 0, rfl, Int.le_refl 0⟩
  have hagree := (routing_and_admission {} 0 expiredRepository expiredRepository_keyed
    [⟨"primary", "chat", 100⟩] "chat" none).2.2.2.1
  refine ⟨hdiverges, fun hsame => ?_⟩
  exact (hagree _ List.mem_cons_self rfl expiredProvider rfl).mp hsame hdiverges

/-- The breaker admits a call of the only provider, and the router selects none. -/
theorem not_routing_as_admission :
    ¬ ∀ (breaker : CircuitBreaker) (now : Timestamp) (repository : Repository)
      (routes : List ProviderRoute) (capability : String), Keyed repository →
      ((∃ route, (exec (select routes capability none) repository).1 = .ok route) ↔
        ∃ route ∈ routes, route.capability = capability ∧
          Admissible breaker now repository capability route) := by
  intro h
  have hstate : expiredRepository "primary" "chat" = some expiredProvider := rfl
  obtain ⟨route, hroute⟩ := (h {} 0 expiredRepository [⟨"primary", "chat", 100⟩] "chat"
    expiredRepository_keyed).mpr ⟨_, List.mem_cons_self, rfl,
      (admissible_iff expiredRepository_keyed hstate).mpr rfl⟩
  have hnone : (exec (select [⟨"primary", "chat", 100⟩] "chat" none) expiredRepository).1 =
      .error ⟨.providerUnavailableError, "No healthy provider supports capability"⟩ := by rfl
  rw [hnone] at hroute
  cases hroute

end Providers
end Ascos
