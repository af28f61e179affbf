set_option autoImplicit false

/-! # Lanes: the deployments of one service

A *lane* is a named parallel deployment. Everything that exists once per lane (queues, routing
keys, hosts) is named by suffixing a base name with the lane. Production has no suffix, and three
spellings mean production: no lane at all, the empty name, and the reserved name `prod`.
`Lane.normalize` folds them into one, and the names below depend on nothing else about a lane. -/

namespace Laneway

namespace Lane

/-- The reserved name of the production environment. -/
def production : String := "prod"

/-- A lane name counts as a feature lane when it is neither empty nor the reserved name. -/
def IsFeature (lane : String) : Prop := lane ≠ "" ∧ lane ≠ production

instance (lane : String) : Decidable (IsFeature lane) := by
  unfold IsFeature; infer_instance

/-- The feature lane a value stands for; `none` is production. -/
def normalize (lane : Option String) : Option String :=
  lane.filter fun name => IsFeature name

theorem normalize_some (name : String) :
    normalize (some name) = if IsFeature name then some name else none := by
  by_cases h : IsFeature name <;> simp [normalize, Option.filter, h]

theorem normalize_eq_some_iff {lane : Option String} {name : String} :
    normalize lane = some name ↔ lane = some name ∧ IsFeature name := by
  simp [normalize, Option.filter_eq_some_iff]

/-- Normalising is a projection: a normalised lane stays as it is. -/
@[simp] theorem normalize_normalize (lane : Option String) :
    normalize (normalize lane) = normalize lane := by
  cases h : normalize lane with
  | none => rfl
  | some name => exact normalize_eq_some_iff.2 ⟨rfl, (normalize_eq_some_iff.1 h).2⟩

/-- Whether a value names a deployment other than production. -/
def isFeature (lane : Option String) : Bool := (normalize lane).isSome

/-- A base name scoped to a lane: the lane follows the base after `separator`, and production
    keeps the base bare. -/
def suffixed (separator base : String) (lane : Option String) : String :=
  match normalize lane with
  | some name => base ++ separator ++ name
  | none => base

/-- The queue of a lane: `base` or `base_lane`. -/
def queue (base : String) (lane : Option String) : String := suffixed "_" base lane

/-- The routing key of a lane: `base` or `base.lane`. -/
def routingKey (base : String) (lane : Option String) : String := suffixed "." base lane

/-- The host of a lane: `service` or `service-lane`. Whether the service is deployed in that lane
    is for the caller to decide. -/
def host (service : String) (lane : Option String) : String := suffixed "-" service lane

/-- Scoped names see a lane only through its normal form. -/
theorem suffixed_normalize (separator base : String) (lane : Option String) :
    suffixed separator base (normalize lane) = suffixed separator base lane := by
  simp [suffixed]

end Lane

end Laneway
