import Laneway.Proofs.Routing.NextHop

set_option autoImplicit false

/-! # What the name of a service resolves to

A URL is put together from the host, the port and the path. The host is that of a lane only if the
lane asked for is a feature lane and stands in the entry of this very service; whatever else is
asked for, and whatever else the table holds, it is the bare name. The port is written unless it is
the default one or unknown. So one entry of the table decides, and with a lane named for the request
nothing of the context does. -/

namespace Laneway.Routing

namespace Topology

section

variable (topology : Topology) (service : String) (asked : Option String)

/-- The lane asked for is a feature lane in which the service is deployed. -/
def Deploys (name : String) : Prop :=
  asked = some name ∧ name ≠ "" ∧ name ≠ "prod" ∧
    ∃ info, topology.get? service = some info ∧ name ∈ info.lanes

/-- The host of a URL: that of the lane if the service is deployed in it, and the bare one
    otherwise. -/
inductive Host : String → Prop
  | ofLane {name : String} (deployed : topology.Deploys service asked name) :
      Host (service ++ "-" ++ name)
  | bare (undeployed : ∀ name, ¬ topology.Deploys service asked name) : Host service

/-- What a URL has between host and path: the port of a known service, unless it is unknown itself
    or the default one. -/
inductive Port : String → Prop
  | written {info : ServiceInfo} (known : topology.get? service = some info)
      (nonzero : info.port ≠ 0) (special : info.port ≠ 80) :
      Port (":" ++ toString info.port.toNat)
  | omitted (plain : ∀ info, topology.get? service = some info → info.port = 0 ∨ info.port = 80) :
      Port ""

end

variable {topology changed : Topology} {service path : String} {asked : Option String}
  {context : Context} {lane : Option String}

/-! ## Host -/

theorem servingLane_eq_some_iff {name : String} :
    topology.servingLane service asked = some name ↔ topology.Deploys service asked name := by
  rw [servingLane, Option.filter_eq_some_iff, Lane.normalize_eq_some_iff]
  unfold Deploys
  cases topology.get? service with
  | none => simp
  | some info => simp [Lane.IsFeature, Lane.production, and_assoc]

theorem host_servingLane (topology : Topology) (service : String) (asked : Option String) :
    topology.Host service asked (Lane.host service (topology.servingLane service asked)) := by
  cases serving : topology.servingLane service asked with
  | none =>
    refine .bare fun name deployed => ?_
    rw [servingLane_eq_some_iff.2 deployed] at serving
    exact nomatch serving
  | some name =>
    have deployed := servingLane_eq_some_iff.1 serving
    have feature : Lane.normalize (some name) = some name :=
      Lane.normalize_eq_some_iff.2 ⟨rfl, deployed.2.1, deployed.2.2.1⟩
    rw [Lane.host, Lane.suffixed, feature]
    exact .ofLane deployed

/-- There is one host for what is asked. -/
theorem Host.unique {host other : String} (first : topology.Host service asked host)
    (second : topology.Host service asked other) : host = other := by
  cases first with
  | ofLane deployed =>
    cases second with
    | ofLane deployed' => rw [Option.some.inj (deployed.1.symm.trans deployed'.1)]
    | bare undeployed => exact absurd deployed (undeployed _)
  | bare undeployed =>
    cases second with
    | ofLane deployed' => exact absurd deployed' (undeployed _)
    | bare => rfl

/-! ## Port -/

theorem port_portText (topology : Topology) (service : String) :
    topology.Port service (portText (topology.port service)) := by
  unfold portText port
  cases known : topology.get? service with
  | none =>
    refine .omitted fun info entry => ?_
    exact nomatch known.symm.trans entry
  | some info =>
    by_cases special : info.port ≠ 0 ∧ info.port ≠ 80
    · rw [if_pos special]
      exact .written known special.1 special.2
    · rw [if_neg special]
      refine .omitted fun info' entry => ?_
      obtain rfl := Option.some.inj (known.symm.trans entry)
      rcases Decidable.not_and_iff_not_or_not.1 special with zero | default
      · exact .inl (Decidable.not_not.1 zero)
      · exact .inr (Decidable.not_not.1 default)

theorem Port.unique {port other : String} (first : topology.Port service port)
    (second : topology.Port service other) : port = other := by
  cases first with
  | written known nonzero special =>
    cases second with
    | written known' => rw [Option.some.inj (known.symm.trans known')]
    | omitted plain => exact absurd (plain _ known) (not_or.2 ⟨nonzero, special⟩)
  | omitted plain =>
    cases second with
    | written known nonzero special => exact absurd (plain _ known) (not_or.2 ⟨nonzero, special⟩)
    | omitted => rfl

/-! ## URL -/

theorem effectiveLane_eq_or (context : Context) (lane : Option String) :
    effectiveLane context lane = lane.or context.lane := by
  cases lane <;> rfl

/-- Of the table a URL depends on the entry of its service only. -/
theorem url_congr (same : changed.get? service = topology.get? service) :
    changed.url context service path lane = topology.url context service path lane := by
  simp only [url, servingLane, port, same]

end Topology

/-- A client of a service asks for the URL that the table has for it. -/
theorem Client.url_request (client : Client) (topology : Topology) (context : Context)
    (method path : String) :
    (client.request topology context method path).map (·.url) =
      (Http.Draft.new method (topology.url context client.service path none)).map (·.url) := by
  unfold Client.request Topology.request
  cases Http.Draft.new method (topology.url context client.service path none) <;> rfl

/-- A name resolves to `http://`, its one host, its one port text and the path. The base URL is the
    same without the path, and the client of a service gets what its service resolves to when no
    lane is named. Nothing but the entry of the service counts, and nothing of the context where a
    lane is named. -/
theorem resolves_by_own_entry (topology : Topology) (context : Context) (service path : String)
    (lane : Option String) :
    (∀ text, topology.url context service path lane = text ↔
      ∃ host port, topology.Host service (lane.or context.lane) host ∧
        topology.Port service port ∧ text = "http://" ++ host ++ port ++ path) ∧
    topology.url context service path lane = topology.baseUrl context service lane ++ path ∧
    (∀ client : Client, client.service = service →
      client.baseUrl topology context ++ path = topology.url context service path none ∧
      ∀ method, (client.request topology context method path).map (·.url) =
        (Http.Draft.new method (topology.url context service path none)).map (·.url)) ∧
    (∀ changed : Topology, changed.get? service = topology.get? service →
      changed.url context service path lane = topology.url context service path lane) ∧
    (∀ name info, name ≠ service →
      (topology.insert name info).url context service path lane =
        topology.url context service path lane) ∧
    ∀ name other, topology.url other service path (some name) =
      topology.url context service path (some name) := by
  have host := topology.host_servingLane service (lane.or context.lane)
  have port := topology.port_portText service
  refine ⟨fun text => ⟨?_, ?_⟩, topology.url_eq_baseUrl_append context service path lane, ?_,
    fun _ => Topology.url_congr, fun name info other => ?_, fun _ _ => rfl⟩
  · rintro rfl
    exact ⟨_, _, host, port, by rw [Topology.url, Topology.effectiveLane_eq_or]⟩
  · rintro ⟨_, _, host', port', rfl⟩
    rw [Topology.url, Topology.effectiveLane_eq_or, host.unique host', port.unique port']
  · rintro client rfl
    exact ⟨(topology.url_eq_baseUrl_append context client.service path none).symm,
      fun method => client.url_request topology context method path⟩
  · exact Topology.url_congr (by rw [Topology.get?_insert, if_neg (Ne.symm other)])

/-- A service that is named like the host of a lane has no part in where that lane is. -/
theorem resolves_by_own_entry_sameName : "svc-feat-x" ≠ "svc" ∧
    (deployed.insert "svc-feat-x" ⟨∅, 8080⟩).url ⟨some "feat-x", none, none⟩ "svc" "/p" none =
      "http://svc-feat-x:3000/p" := by
  have apart : "svc-feat-x" ≠ "svc" := by decide
  obtain ⟨-, -, -, -, same, -⟩ :=
    resolves_by_own_entry deployed ⟨some "feat-x", none, none⟩ "svc" "/p" none
  exact ⟨apart, (same "svc-feat-x" ⟨∅, 8080⟩ apart).trans (by decide +kernel)⟩

end Laneway.Routing
