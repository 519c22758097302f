import ResourceBrowser.Cluster.Simulation

/-!
# A typical cluster

A small cluster to try the program with: two namespaces, a few workloads and three nodes.
-/

namespace ResourceBrowser.Cluster

open Number

/-- A time some minutes ago. -/
def minutesBefore (now : Int) (minutes : Nat) : Int :=
  now - minutes * 60 * secondNanos

/-- A node that is ready. -/
def typicalNode (now : Int) (name : String) (roles : List String) (minutes : Nat)
    (cpuMilli memoryMi : UInt64) : Node where
  name
  labels := .ofPairs [("kubernetes.io/hostname", name)]
  ready := true
  roles
  version := "v1.30.2"
  cpuMilli := some cpuMilli
  memoryBytes := some (memoryMi * 1024 * 1024)
  created := some (minutesBefore now minutes)

/-- A running pod whose containers are all ready; the readings come in thousandths of a processor
and in mebibytes. -/
def typicalPod (now : Int) (ns name node : String) (minutes : Nat) (labels : List (String × String))
    (containers : List Container) (usage : Option (UInt64 × UInt64)) : Pod where
  ns
  name
  labels := .ofPairs labels
  phase := .running
  ready := .ofNat containers.length
  restarts := 0
  ip := some ("10.244.0." ++ toString (name.utf8ByteSize * 7 % 250))
  node := some node
  containers
  cpuMilli := usage.map (·.1)
  memoryBytes := usage.map (·.2 * 1024 * 1024)
  created := some (minutesBefore now minutes)

def typicalNodes (now : Int) : List Node := [
  typicalNode now "control-plane-1" ["control-plane"] (60 * 24 * 40) 850 2900,
  typicalNode now "worker-1" [] (60 * 24 * 12) 1430 6100,
  typicalNode now "worker-2" [] (60 * 24 * 12) 610 3300]

def typicalPods (now : Int) : List Pod := [
  typicalPod now "default" "nginx-7c5ddbdf54-x8f9q" "worker-1" 95
    [("app", "nginx"), ("tier", "frontend")]
    [⟨"nginx", [⟨"http", 80, .tcp⟩, ⟨"https", 443, .tcp⟩]⟩] (some (12, 48)),
  typicalPod now "default" "api-6d8f7b9c4-k2m4n" "worker-2" (60 * 26)
    [("app", "api"), ("tier", "backend")]
    [⟨"api", [⟨"http", 8080, .tcp⟩]⟩, ⟨"envoy", [⟨"admin", 9901, .tcp⟩]⟩] (some (180, 256)),
  typicalPod now "default" "redis-0" "worker-1" (60 * 24 * 3)
    [("app", "redis"), ("tier", "backend")]
    [⟨"redis", [⟨"", 6379, .tcp⟩]⟩] (some (40, 96)),
  { typicalPod now "default" "migrate-28461230-zq7xv" "worker-2" 7
      [("job-name", "migrate")] [⟨"migrate", []⟩] none with phase := .succeeded, ready := 0 },
  typicalPod now "kube-system" "coredns-5d78c9869d-9xk2l" "control-plane-1" (60 * 24 * 40)
    [("k8s-app", "kube-dns")]
    [⟨"coredns", [⟨"dns", 53, .udp⟩]⟩] (some (3, 18)),
  typicalPod now "kube-system" "metrics-server-6d94bc8694-tl7wz" "worker-1" (60 * 24 * 12)
    [("k8s-app", "metrics-server")]
    [⟨"metrics-server", [⟨"https", 10250, .tcp⟩]⟩] (some (5, 22))]

/-- The typical cluster at a time. -/
def typical (now : Int) : Cluster := { pods := typicalPods now, nodes := typicalNodes now }

end ResourceBrowser.Cluster
