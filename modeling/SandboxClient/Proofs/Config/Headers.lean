import SandboxClient.Config
import SandboxClient.Proofs.Dictionary

/-!
# Layers of headers

The headers of a sandbox come in three layers.  The last of them that has a name decides about it: first
the routing key and the cluster, then the extra headers of the configuration, then those that tell on
whose behalf a request is made, as far as they are not empty.
-/

namespace SandboxClient

namespace SandboxConfig

variable {config : SandboxConfig} {routeKey name value : Bytes}

/-- The headers that tell where a request goes. -/
def routingHeaders (config : SandboxConfig) (routeKey : Bytes) : List (Bytes × Bytes) :=
  [(utf8 "ROUTE-KEY", routeKey), (utf8 "X-Cluster", config.cluster)]

/-- The headers that tell on whose behalf a request is made.  Empty ones are left out. -/
def ownHeaders (config : SandboxConfig) : List (Bytes × Bytes) :=
  [(utf8 "X-User-Id", config.userId), (utf8 "X-Experiment-Id", config.experimentId),
    (utf8 "X-Namespace", config.projectNamespace)].filter fun header => header.2 ≠ []

/-- A header that a request carries, by the layer that it is from. -/
inductive Carries (config : SandboxConfig) (routeKey name value : Bytes) : Prop
  | own (given : (name, value) ∈ config.ownHeaders)
  | extra (free : Dictionary.Lacks config.ownHeaders name)
      (given : Dictionary.Gives config.extraHeaders name value)
  | routing (unlisted : Dictionary.Lacks config.extraHeaders name)
      (given : (name, value) ∈ config.routingHeaders routeKey)

/-- The headers have every name once, and are those that a request carries. -/
structure Layered (config : SandboxConfig) (routeKey : Bytes) (headers : Dictionary Bytes) : Prop where
  ascending : headers.Ascending
  mem_iff : ∀ name value, (name, value) ∈ headers ↔ config.Carries routeKey name value

/-- There is only one map of headers that has these layers. -/
theorem Layered.unique {headers other : Dictionary Bytes} (layered : config.Layered routeKey headers)
    (further : config.Layered routeKey other) : headers = other := by
  refine layered.ascending.eq_of_mem_iff further.ascending fun pair => ?_
  rw [layered.mem_iff, further.mem_iff]

theorem headers_eq_ofList (config : SandboxConfig) (routeKey : Bytes) :
    config.headers routeKey =
      Dictionary.ofList (config.routingHeaders routeKey ++ (config.extraHeaders ++ config.ownHeaders)) := by
  have layers : ∀ own : List (Bytes × Bytes),
      Dictionary.ofList (config.routingHeaders routeKey ++ (config.extraHeaders ++ own)) =
        Dictionary.insertAll (Dictionary.insertAll (Dictionary.insertAll []
          (config.routingHeaders routeKey)) config.extraHeaders) own := by
    intro own
    simp only [Dictionary.ofList, Dictionary.insertAll, List.foldl_append]
  rw [layers, headers, ownHeaders]
  cases config.userId <;> cases config.experimentId <;> cases config.projectNamespace <;> rfl

theorem distinct_ownHeaders (config : SandboxConfig) :
    config.ownHeaders.Pairwise fun header other => header.1 ≠ other.1 := by
  refine List.Pairwise.filter _ ?_
  simp only [List.pairwise_cons, List.forall_mem_cons]
  decide

theorem distinct_routingHeaders (config : SandboxConfig) (routeKey : Bytes) :
    (config.routingHeaders routeKey).Pairwise fun header other => header.1 ≠ other.1 := by
  simp only [routingHeaders, List.pairwise_cons, List.forall_mem_cons]
  decide

/-- The names of the first layer and those of the last are different. -/
theorem lacks_ownHeaders (given : (name, value) ∈ config.routingHeaders routeKey) :
    Dictionary.Lacks config.ownHeaders name := by
  have apart : ∀ own ∈ [utf8 "X-User-Id", utf8 "X-Experiment-Id", utf8 "X-Namespace"],
      ∀ routing ∈ [utf8 "ROUTE-KEY", utf8 "X-Cluster"], own ≠ routing := by decide
  intro header member
  have own : header.1 ∈ [utf8 "X-User-Id", utf8 "X-Experiment-Id", utf8 "X-Namespace"] :=
    List.mem_map_of_mem (f := Prod.fst) (List.mem_filter.mp member).1
  have routing : name ∈ [utf8 "ROUTE-KEY", utf8 "X-Cluster"] :=
    List.mem_map_of_mem (f := Prod.fst) given
  exact apart _ own _ routing

theorem layered_headers (config : SandboxConfig) (routeKey : Bytes) :
    config.Layered routeKey (config.headers routeKey) where
  ascending := by
    rw [headers_eq_ofList]
    exact Dictionary.ascending_ofList _
  mem_iff := by
    intro name value
    rw [headers_eq_ofList, Dictionary.mem_ofList_iff, Dictionary.gives_append_iff,
      Dictionary.gives_append_iff, Dictionary.gives_iff_mem config.distinct_ownHeaders,
      Dictionary.gives_iff_mem (config.distinct_routingHeaders routeKey)]
    constructor
    · rintro ((own | ⟨free, extra⟩) | ⟨lacks, routing⟩)
      · exact .own own
      · exact .extra free extra
      · exact .routing (List.forall_mem_append.mp lacks).1 routing
    · rintro (own | ⟨free, extra⟩ | ⟨unlisted, routing⟩)
      · exact .inl (.inl own)
      · exact .inl (.inr ⟨free, extra⟩)
      · exact .inr ⟨List.forall_mem_append.mpr ⟨unlisted, lacks_ownHeaders routing⟩, routing⟩

end SandboxConfig

end SandboxClient
