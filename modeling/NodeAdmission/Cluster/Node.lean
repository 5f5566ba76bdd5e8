import NodeAdmission.Json.Decoder

/-!
# Nodes as the orchestrator lists them

A listing is an object whose `items` are the nodes, in the order in which they are looked at. Of a
node only its name, labels, annotations, conditions and addresses count; whatever else a listing
says is skipped. Three questions are asked of a node:

* `Node.isReady` — whether it is ready;
* `Node.internalIp?` — where its agent is reached;
* `Node.isControlPlane` — whether it belongs to the control plane.

What is not required of a node may be left out, and counts as empty then. A node without metadata,
or with metadata that do not give its name, makes the whole listing malformed.
-/

namespace NodeAdmission.Cluster

open Json (Decoder TextMap)

/-- A condition of a node, such as `Ready` with status `True`. -/
structure Condition where
  kind : String
  status : String
deriving DecidableEq, Repr

/-- An address of a node, such as `InternalIP`. -/
structure Address where
  kind : String
  address : String
deriving DecidableEq, Repr

structure Node where
  name : String
  labels : TextMap
  annotations : TextMap
  conditions : List Condition
  addresses : List Address

namespace Node

/-- The first condition `Ready` has the status `True`; a node without one is not ready. -/
def isReady (n : Node) : Bool :=
  match n.conditions.find? (·.kind = "Ready") with
  | some c => c.status = "True"
  | none => false

/-- The first address of kind `InternalIP`. -/
def listedAddress? (n : Node) : Option String :=
  (n.addresses.find? (·.kind = "InternalIP")).map (·.address)

/-- The internal address: what the annotation under the key says, unless that is nothing, and else
the address that is listed. -/
def internalIp? (n : Node) (key : String) : Option String :=
  match n.annotations.get? key with
  -- An empty annotation is as good as none; an empty address that is listed is not.
  | some ip => if ip = "" then n.listedAddress? else some ip
  | none => n.listedAddress?

/-- One of the labels is present and is empty or `true`. -/
def isControlPlane (n : Node) (labels : List String) : Bool :=
  labels.any fun label =>
    match n.labels.get? label with
    | some value => value = "" || value = "true"
    | none => false

end Node

/-! ### Reading a listing -/

def pairDecoder (first second : String) (make : String → String → α) : Decoder α :=
  .record (δ := Option String × Option String)
    [.of first .text fun v d => (some v, d.2), .of second .text fun v d => (d.1, some v)]
    (none, none)
    fun d => do
      let a ← d.1
      let b ← d.2
      return make a b

def Condition.decoder : Decoder Condition := pairDecoder "type" "status" .mk

def Address.decoder : Decoder Address := pairDecoder "type" "address" .mk

structure Metadata where
  name : String
  labels : TextMap
  annotations : TextMap

/-- Metadata of which only some fields are known. -/
structure Metadata.Draft where
  name : Option String := none
  labels : Option TextMap := none
  annotations : Option TextMap := none

def Metadata.decoder : Decoder Metadata :=
  .record (δ := Metadata.Draft)
    [.of "name" .text fun v d => { d with name := some v },
     .of "labels" .textMap fun v d => { d with labels := some v },
     .of "annotations" .textMap fun v d => { d with annotations := some v }]
    {}
    fun d => d.name.map fun name =>
      { name, labels := d.labels.getD .empty, annotations := d.annotations.getD .empty }

structure Status where
  conditions : List Condition := []
  addresses : List Address := []

/-- Reads a status; nothing is required. -/
def Status.decoder : Decoder Status :=
  .record (δ := Status)
    [.of "conditions" (.list Condition.decoder) fun v d => { d with conditions := v },
     .of "addresses" (.list Address.decoder) fun v d => { d with addresses := v }]
    {}
    some

def Node.of (m : Metadata) (s : Status) : Node :=
  { name := m.name, labels := m.labels, annotations := m.annotations
    conditions := s.conditions, addresses := s.addresses }

/-- Reads a node; only its metadata are required. -/
def Node.decoder : Decoder Node :=
  .record (δ := Option Metadata × Status)
    [.of "metadata" Metadata.decoder fun v d => (some v, d.2),
     .of "status" Status.decoder fun v d => (d.1, v)]
    (none, {})
    fun d => d.1.map fun m => .of m d.2

/-- Reads a listing; its items are required. -/
def listingDecoder : Decoder (List Node) :=
  .record (δ := Option (List Node)) [.of "items" (.list Node.decoder) fun v _ => some v] none id

def readListing (raw : Bytes) : Except Json.DecodeError (List Node) := listingDecoder.decode raw

end NodeAdmission.Cluster
