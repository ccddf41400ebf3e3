import ReadyPin.Cluster.Volume

/-!
# Containers

The containers of a pod, and what has become of them. None of it matters for where the pod runs, so that only the types
are looked at.

In the program: `Container`, `EphemeralContainer` and `ContainerStatus` of `k8s_openapi`, with the features of
`v1_29`.
-/

namespace ReadyPin.Container

variable {m : Type → Type} [Source m]

/-! ## 1. Environment -/

/-- One entry of an object, which may be optional. -/
def entry (name : String) : m Unit :=
  Source.shape name [ .typed "key" Source.text, .typed "name" Source.text, .typed "optional" Source.flag ]

/-- All entries of an object, which may be optional. -/
def allEntries (name : String) : m Unit :=
  Source.shape name [ .typed "name" Source.text, .typed "optional" Source.flag ]

/-- A variable of the environment. -/
def envVar : m Unit :=
  Source.shape "EnvVar"
    [ .typed "name" Source.text,
      .typed "value" Source.text,
      .typed "valueFrom" (Source.shape "EnvVarSource"
        [ .typed "configMapKeyRef" (entry "ConfigMapKeySelector"),
          .typed "fieldRef" Volume.podField,
          .typed "resourceFieldRef" Volume.containerResource,
          .typed "secretKeyRef" (entry "SecretKeySelector") ]) ]

/-- Variables that are the entries of an object. -/
def envSource : m Unit :=
  Source.shape "EnvFromSource"
    [ .typed "configMapRef" (allEntries "ConfigMapEnvSource"), .typed "prefix" Source.text,
      .typed "secretRef" (allEntries "SecretEnvSource") ]

/-! ## 2. Probes -/

/-- A command that is run. -/
def command : m Unit := Source.shape "ExecAction" [ .typed "command" (Source.list Source.text) ]

/-- A request that is made. -/
def request : m Unit :=
  Source.shape "HTTPGetAction"
    [ .typed "host" Source.text,
      .typed "httpHeaders" (Source.list (Source.shape "HTTPHeader" (Field.each Source.text ["name", "value"]))),
      .typed "path" Source.text,
      .typed "port" Source.intOrText,
      .typed "scheme" Source.text ]

/-- A connection that is opened. -/
def connection : m Unit :=
  Source.shape "TCPSocketAction" [ .typed "host" Source.text, .typed "port" Source.intOrText ]

/-- What is done when a container has been started or is to be stopped. -/
def handler : m Unit :=
  Source.shape "LifecycleHandler"
    [ .typed "exec" command, .typed "httpGet" request,
      .typed "sleep" (Source.shape "SleepAction" [ .typed "seconds" Source.int64 ]), .typed "tcpSocket" connection ]

/-- How the state of a container is found out. -/
def probe : m Unit :=
  Source.shape "Probe"
    ([ .typed "exec" command,
       .typed "grpc" (Source.shape "GRPCAction" [ .typed "port" Source.int32, .typed "service" Source.text ]),
       .typed "httpGet" request,
       .typed "tcpSocket" connection,
       .typed "terminationGracePeriodSeconds" Source.int64 ]
      ++ Field.each Source.int32
        ["failureThreshold", "initialDelaySeconds", "periodSeconds", "successThreshold", "timeoutSeconds"])

/-! ## 3. Rights and resources -/

/-- The members that the rights of a pod and those of a container have in common. -/
def rights : List (Field m Unit) :=
  Field.each Source.int64 ["runAsGroup", "runAsUser"]
    ++ [ .typed "runAsNonRoot" Source.flag,
         .typed "seLinuxOptions"
           (Source.shape "SELinuxOptions" (Field.each Source.text ["level", "role", "type", "user"])),
         .typed "seccompProfile" (Source.shape "SeccompProfile" (Field.each Source.text ["localhostProfile", "type"])),
         .typed "windowsOptions" (Source.shape "WindowsSecurityContextOptions"
           (.typed "hostProcess" Source.flag
             :: Field.each Source.text ["gmsaCredentialSpec", "gmsaCredentialSpecName", "runAsUserName"])) ]

/-- The rights that a container runs with. -/
def securityContext : m Unit :=
  Source.shape "SecurityContext"
    (Field.each Source.flag ["allowPrivilegeEscalation", "privileged", "readOnlyRootFilesystem"]
      ++ [ .typed "capabilities"
             (Source.shape "Capabilities" (Field.each (Source.list Source.text) ["add", "drop"])),
           .typed "procMount" Source.text ]
      ++ rights)

/-- The resources that a container needs. -/
def resources : m Unit :=
  Source.shape "ResourceRequirements"
    (.typed "claims" (Source.list (Source.shape "ResourceClaim" [ .typed "name" Source.text ]))
      :: Field.each Cluster.quantities ["limits", "requests"])

/-! ## 4. Containers -/

/-- The members of a container. -/
def fields : List (Field m Unit) :=
  Field.each (Source.list Source.text) ["args", "command"]
    ++ [ .typed "env" (Source.list envVar),
         .typed "envFrom" (Source.list envSource),
         .typed "lifecycle" (Source.shape "Lifecycle" (Field.each handler ["postStart", "preStop"])) ]
    ++ Field.each probe ["livenessProbe", "readinessProbe", "startupProbe"]
    ++ [ .typed "ports" (Source.list (Source.shape "ContainerPort"
           (Field.each Source.int32 ["containerPort", "hostPort"]
             ++ Field.each Source.text ["hostIP", "name", "protocol"]))),
         .typed "resizePolicy" (Source.list (Source.shape "ContainerResizePolicy"
           (Field.each Source.text ["resourceName", "restartPolicy"]))),
         .typed "resources" resources,
         .typed "securityContext" securityContext,
         .typed "volumeDevices" (Source.list (Source.shape "VolumeDevice"
           (Field.each Source.text ["devicePath", "name"]))),
         .typed "volumeMounts" (Source.list (Source.shape "VolumeMount"
           (.typed "readOnly" Source.flag
             :: Field.each Source.text ["mountPath", "mountPropagation", "name", "subPath", "subPathExpr"]))) ]
    ++ Field.each Source.flag ["stdin", "stdinOnce", "tty"]
    ++ Field.each Source.text
      ["image", "imagePullPolicy", "name", "restartPolicy", "terminationMessagePath", "terminationMessagePolicy",
        "workingDir"]

/-- A container. -/
def read : m Unit := Source.shape "Container" fields

/-- A container that is put into a running pod, for one of the others. -/
def readEphemeral : m Unit :=
  Source.shape "EphemeralContainer" (.typed "targetContainerName" Source.text :: fields)

/-! ## 5. States -/

/-- The state that a container is in. -/
def state : m Unit :=
  Source.shape "ContainerState"
    [ .typed "running" (Source.shape "ContainerStateRunning" [ .typed "startedAt" Source.timestamp ]),
      .typed "terminated" (Source.shape "ContainerStateTerminated"
        (Field.each Source.int32 ["exitCode", "signal"] ++ Field.each Source.text ["containerID", "message", "reason"]
          ++ Field.each Source.timestamp ["finishedAt", "startedAt"])),
      .typed "waiting" (Source.shape "ContainerStateWaiting" (Field.each Source.text ["message", "reason"])) ]

/-- What has become of a container. -/
def status : m Unit :=
  Source.shape "ContainerStatus"
    ([ .typed "allocatedResources" Cluster.quantities,
       .typed "resources" resources,
       .typed "restartCount" Source.int32 ]
      ++ Field.each state ["lastState", "state"]
      ++ Field.each Source.flag ["ready", "started"]
      ++ Field.each Source.text ["containerID", "image", "imageID", "name"])

end ReadyPin.Container
