import ReadyPin.Cluster.Container

/-!
# Pods

A pod as far as its scheduling and its volumes matter: the node selector, the node affinity and the volumes. The other
known members are read for their types only, because a pod with a mistyped member is no pod.

In the program: `Pod`, `PodSpec` and `PodStatus` of `k8s_openapi`, with the features of `v1_29`.
-/

namespace ReadyPin

/-! ## 1. Parts of a pod -/

/-- One requirement on the labels or fields of a node. -/
structure NodeRequirement where
  key : String := ""
  deriving Repr, DecidableEq, Inhabited

/-- Requirements that a node must all meet: on its labels, and on its fields. -/
structure NodeTerm where
  onLabels : List NodeRequirement := []
  onFields : List NodeRequirement := []
  deriving Repr, DecidableEq, Inhabited

/-- The nodes that a pod must or should run on. -/
structure NodeAffinity where
  /-- Terms one of which a node must fulfil. -/
  required : List NodeTerm := []
  /-- Terms that a node should fulfil. -/
  preferred : List NodeTerm := []
  deriving Repr, DecidableEq, Inhabited

/-- What a pod asks for. -/
structure PodSpec where
  nodeSelector : List (String × String) := []
  nodeAffinity : Option NodeAffinity := none
  volumes : List Volume := []
  deriving Repr, DecidableEq, Inhabited

/-- A pod. -/
structure Pod where
  metadata : Metadata := {}
  spec : Option PodSpec := none
  deriving Repr, DecidableEq, Inhabited

variable {m : Type → Type} [Source m]

/-! ## 2. Scheduling -/

namespace NodeRequirement

/-- A requirement on a node. -/
def read : m NodeRequirement :=
  Source.record "NodeSelectorRequirement" {}
    [ .optional "key" Source.text fun _ v => { key := v.getD "" },
      .typed "operator" Source.text,
      .typed "values" (Source.list Source.text) ]

end NodeRequirement

namespace NodeTerm

/-- A term of requirements. -/
def read : m NodeTerm :=
  Source.record "NodeSelectorTerm" {}
    [ .optional "matchExpressions" (Source.list NodeRequirement.read) fun self v =>
        { self with onLabels := v.getD [] },
      .optional "matchFields" (Source.list NodeRequirement.read) fun self v =>
        { self with onFields := v.getD [] } ]

/-- A term with its weight. -/
def readWeighted : m NodeTerm :=
  Source.record "PreferredSchedulingTerm" {}
    [ .optional "preference" read fun _ v => v.getD {},
      .typed "weight" Source.int32 ]

end NodeTerm

namespace NodeAffinity

/-- The terms of a node selector. -/
def readSelector : m (List NodeTerm) :=
  Source.record "NodeSelector" []
    [ .optional "nodeSelectorTerms" (Source.list NodeTerm.read) fun _ v => v.getD [] ]

/-- The affinity to nodes. -/
def read : m NodeAffinity :=
  Source.record "NodeAffinity" {}
    [ .optional "preferredDuringSchedulingIgnoredDuringExecution" (Source.list NodeTerm.readWeighted) fun self v =>
        { self with preferred := v.getD [] },
      .optional "requiredDuringSchedulingIgnoredDuringExecution" readSelector fun self v =>
        { self with required := v.getD [] } ]

end NodeAffinity

namespace PodSpec

/-- A term of the affinity to other pods. -/
def podTerm : m Unit :=
  Source.shape "PodAffinityTerm"
    (Field.each Cluster.labelSelector ["labelSelector", "namespaceSelector"]
      ++ Field.each (Source.list Source.text) ["matchLabelKeys", "mismatchLabelKeys", "namespaces"]
      ++ [ .typed "topologyKey" Source.text ])

/-- The affinity to other pods, or the opposite. -/
def podAffinity (name : String) : m Unit :=
  Source.shape name
    [ .typed "preferredDuringSchedulingIgnoredDuringExecution" (Source.list (Source.shape "WeightedPodAffinityTerm"
        [ .typed "podAffinityTerm" podTerm, .typed "weight" Source.int32 ])),
      .typed "requiredDuringSchedulingIgnoredDuringExecution" (Source.list podTerm) ]

/-- The affinities of a pod, of which the one to nodes is kept. -/
def affinity : m (Option NodeAffinity) :=
  Source.record "Affinity" none
    [ .optional "nodeAffinity" NodeAffinity.read fun _ v => v,
      .typed "podAffinity" (podAffinity "PodAffinity"),
      .typed "podAntiAffinity" (podAffinity "PodAntiAffinity") ]

/-- How pods are spread over the parts of a cluster. -/
def spreadConstraint : m Unit :=
  Source.shape "TopologySpreadConstraint"
    ([ .typed "labelSelector" Cluster.labelSelector,
       .typed "matchLabelKeys" (Source.list Source.text) ]
      ++ Field.each Source.int32 ["maxSkew", "minDomains"]
      ++ Field.each Source.text ["nodeAffinityPolicy", "nodeTaintsPolicy", "topologyKey", "whenUnsatisfiable"])

/-- A taint of nodes that the pod tolerates. -/
def toleration : m Unit :=
  Source.shape "Toleration"
    [ .typed "effect" Source.text, .typed "key" Source.text, .typed "operator" Source.text,
      .typed "tolerationSeconds" Source.int64, .typed "value" Source.text ]

end PodSpec

/-! ## 3. What a pod asks for -/

namespace PodSpec

/-- The rights that the pod runs with. -/
def securityContext : m Unit :=
  Source.shape "PodSecurityContext"
    ([ .typed "fsGroup" Source.int64,
       .typed "fsGroupChangePolicy" Source.text,
       .typed "supplementalGroups" (Source.list Source.int64),
       .typed "sysctls" (Source.list (Source.shape "Sysctl" (Field.each Source.text ["name", "value"]))) ]
      ++ Container.rights)

/-- How names are looked up. -/
def nameLookup : m Unit :=
  Source.shape "PodDNSConfig"
    (.typed "options" (Source.list (Source.shape "PodDNSConfigOption" (Field.each Source.text ["name", "value"])))
      :: Field.each (Source.list Source.text) ["nameservers", "searches"])

/-- A claim of resources that are not storage. -/
def resourceClaim : m Unit :=
  Source.shape "PodResourceClaim"
    [ .typed "name" Source.text,
      .typed "source" (Source.shape "ClaimSource"
        (Field.each Source.text ["resourceClaimName", "resourceClaimTemplateName"])) ]

/-- A list of objects in each of which there is one string. -/
def named (name key : String) : m (List Unit) := Source.list (Source.shape name [ .typed key Source.text ])

/-- The members beside those that matter. -/
def otherFields : List (Field m PodSpec) :=
  Field.each Source.int64 ["activeDeadlineSeconds", "terminationGracePeriodSeconds"]
    ++ Field.each Source.flag
      ["automountServiceAccountToken", "enableServiceLinks", "hostIPC", "hostNetwork", "hostPID", "hostUsers",
        "setHostnameAsFQDN", "shareProcessNamespace"]
    ++ Field.each Source.text
      ["dnsPolicy", "hostname", "nodeName", "preemptionPolicy", "priorityClassName", "restartPolicy",
        "runtimeClassName", "schedulerName", "serviceAccount", "serviceAccountName", "subdomain"]
    ++ Field.each (Source.list Container.read) ["containers", "initContainers"]
    ++ [ .typed "dnsConfig" nameLookup,
         .typed "ephemeralContainers" (Source.list Container.readEphemeral),
         .typed "hostAliases" (Source.list (Source.shape "HostAlias"
           [ .typed "hostnames" (Source.list Source.text), .typed "ip" Source.text ])),
         .typed "imagePullSecrets" (named "LocalObjectReference" "name"),
         .typed "os" (Source.shape "PodOS" [ .typed "name" Source.text ]),
         .typed "overhead" Cluster.quantities,
         .typed "priority" Source.int32,
         .typed "readinessGates" (named "PodReadinessGate" "conditionType"),
         .typed "resourceClaims" (Source.list resourceClaim),
         .typed "schedulingGates" (named "PodSchedulingGate" "name"),
         .typed "securityContext" securityContext,
         .typed "tolerations" (Source.list toleration),
         .typed "topologySpreadConstraints" (Source.list spreadConstraint) ]

/-- The members of a pod's spec. -/
def fields : List (Field m PodSpec) :=
  [ .optional "affinity" affinity fun self v => { self with nodeAffinity := v.join },
    .optional "nodeSelector" Source.textMap fun self v => { self with nodeSelector := v.getD [] },
    .optional "volumes" (Source.list Volume.read) fun self v => { self with volumes := v.getD [] } ] ++ otherFields

/-- What a pod asks for. -/
def read : m PodSpec := Source.record "PodSpec" {} fields

end PodSpec

/-! ## 4. The whole pod -/

namespace Pod

/-- What has become of a pod. -/
def status : m Unit :=
  Source.shape "PodStatus"
    (Field.each (Source.list Container.status)
        ["containerStatuses", "ephemeralContainerStatuses", "initContainerStatuses"]
      ++ Field.each Source.text
        ["hostIP", "message", "nominatedNodeName", "phase", "podIP", "qosClass", "reason", "resize"]
      ++ [ .typed "conditions" (Source.list (Cluster.condition "PodCondition")),
           .typed "hostIPs" (PodSpec.named "HostIP" "ip"),
           .typed "podIPs" (PodSpec.named "PodIP" "ip"),
           .typed "resourceClaimStatuses" (Source.list (Source.shape "PodResourceClaimStatus"
             (Field.each Source.text ["name", "resourceClaimName"]))),
           .typed "startTime" Source.timestamp ])

/-- The members of a pod beside its metadata. -/
def fields : List (Field m Pod) :=
  [ .constant "apiVersion" "v1",
    .constant "kind" "Pod",
    .optional "spec" PodSpec.read fun self v => { self with spec := v },
    .typed "status" status ]

/-- A pod. -/
def read : m Pod :=
  Source.record "Pod" {}
    (fields ++ [ .optional "metadata" (Metadata.read 1) fun self v => { self with metadata := v.getD {} } ])

end Pod

end ReadyPin
