import Mathlib.Data.List.Forall2
import NodeAdmission.Cluster.Orchestrator
import NodeAdmission.Proofs.JsonRecords

/-!
# What a listing says of the nodes

`Lists v nodes` says that a JSON value is a listing of the nodes: in its items, one for each node
and in the same order, the names, labels, annotations, conditions and addresses stand where they are
looked for, and what is empty may be left out. Nothing is said of the order of the members, of other
members, or of how a text is spelled.

* `Condition.SaidBy`, `Metadata.SaidBy`, `Node.SaidBy` and their like — what a value says of a part
  of a node, from the inside out.
* `Metadata.decoder_of_saidBy`, `Node.decoder_of_saidBy` and their like — each decoder finds what is
  said. All of them are instances of `Decoder.record_of_members`: one has to tell what is known
  after some fields (`known`), how each field is told, and that in the end everything is known.
* `nodesOf_spelled` — the main statement: exactly these nodes are read from every text
  that spells such a value.
* `exists_listing` — there are such texts for all nodes, so the statement is not an empty one.

Two kinds of fields are told apart. A name is needed and must be there once; labels, annotations,
conditions, addresses and the whole status may be missing, which says that they are empty.
-/

namespace NodeAdmission.Cluster

open Json (AtMostOnce Decoder Means Named Once Parsed QuotedText Spells TextMap)

variable {v : Parsed} {s t : String} {text : String} {nodes : List Node}

/-! ### Values that say what a node is like -/

/-- The value says a text under each of two names. -/
def SaysPair (first second : String) (v : Parsed) (s t : String) : Prop :=
  ∃ ms, v.HasMembers ms ∧ Once (·.IsText s) ms first ∧ Once (·.IsText t) ms second

def Condition.SaidBy (v : Parsed) (c : Condition) : Prop :=
  SaysPair "type" "status" v c.kind c.status

def Address.SaidBy (v : Parsed) (a : Address) : Prop := SaysPair "type" "address" v a.kind a.address

def Metadata.SaidBy (v : Parsed) (m : Metadata) : Prop :=
  ∃ ms, v.HasMembers ms ∧ Once (·.IsText m.name) ms "name" ∧
    AtMostOnce (·.IsMap m.labels) (m.labels = .empty) ms "labels" ∧
    AtMostOnce (·.IsMap m.annotations) (m.annotations = .empty) ms "annotations"

def Status.SaidBy (v : Parsed) (s : Status) : Prop :=
  ∃ ms, v.HasMembers ms ∧
    AtMostOnce (·.IsList Condition.SaidBy s.conditions) (s.conditions = []) ms "conditions" ∧
    AtMostOnce (·.IsList Address.SaidBy s.addresses) (s.addresses = []) ms "addresses"

@[simp] def Node.metadata (n : Node) : Metadata := ⟨n.name, n.labels, n.annotations⟩

@[simp] def Node.status (n : Node) : Status := ⟨n.conditions, n.addresses⟩

/-- The value is what a listing says of a node. -/
def Node.SaidBy (v : Parsed) (n : Node) : Prop :=
  ∃ ms, v.HasMembers ms ∧ Once (Metadata.SaidBy · n.metadata) ms "metadata" ∧
    AtMostOnce (Status.SaidBy · n.status) (n.status = {}) ms "status"

def Lists (v : Parsed) (nodes : List Node) : Prop :=
  ∃ ms, v.HasMembers ms ∧ Once (·.IsList Node.SaidBy nodes) ms "items"

/-! ### Texts of listings -/

theorem hasMembers_parsed (ms : List (String × Json)) :
    (Json.parsed (.obj ms)).HasMembers (Json.parsedMembers ms) := by
  refine ⟨rfl, ?_⟩
  rw [Json.parsedMembers_eq_map]
  intro m hm
  obtain ⟨m', -, rfl⟩ := List.mem_map.mp hm
  exact ⟨m'.1, Json.means_pieces m'.1⟩

theorem isText_parsed (s : String) : (Json.parsed (.str s)).IsText s :=
  ⟨_, rfl, Json.means_pieces s⟩

theorem isList_parsed {Says : Parsed → α → Prop} {toJson : α → Json}
    (h : ∀ a, Says (Json.parsed (toJson a)) a) (as : List α) :
    (Json.parsed (.arr (as.map toJson))).IsList Says as := by
  refine ⟨_, rfl, ?_⟩
  induction as with
  | nil => exact .nil
  | cons a as ih => exact .cons (h a) ih

def pairJson (first second s t : String) : Json := .obj [(first, .str s), (second, .str t)]

theorem saysPair_parsed {first second : String} (hne : first ≠ second) (s t : String) :
    SaysPair first second (Json.parsed (pairJson first second s t)) s t := by
  refine ⟨_, hasMembers_parsed _, ?_, ?_⟩ <;>
    simp [Json.parsedMembers, hne, hne.symm, isText_parsed]

def mapJson (m : TextMap) : Json := .obj (m.entries.map fun e => (e.1, .str e.2))

theorem isMap_parsed (m : TextMap) : (Json.parsed (mapJson m)).IsMap m := by
  refine ⟨_, m.entries, rfl, .refl _, ?_⟩
  rw [Json.parsedMembers_eq_map, List.map_map, List.forall₂_map_left_iff]
  exact List.forall₂_same.mpr fun e _ => ⟨Json.means_pieces e.1, isText_parsed e.2⟩

def Metadata.toJson (m : Metadata) : Json :=
  .obj [("name", .str m.name), ("labels", mapJson m.labels), ("annotations", mapJson m.annotations)]

theorem Metadata.saidBy_parsed (m : Metadata) : m.SaidBy (Json.parsed m.toJson) := by
  refine ⟨_, hasMembers_parsed _, ?_, .inl ?_, .inl ?_⟩ <;>
    simp [Json.parsedMembers, isText_parsed, isMap_parsed]

def Status.toJson (s : Status) : Json :=
  .obj [("conditions", .arr (s.conditions.map fun c => pairJson "type" "status" c.kind c.status)),
    ("addresses", .arr (s.addresses.map fun a => pairJson "type" "address" a.kind a.address))]

theorem Status.saidBy_parsed (s : Status) : s.SaidBy (Json.parsed s.toJson) := by
  have hconditions : Parsed.IsList Condition.SaidBy _ s.conditions :=
    isList_parsed (fun c => saysPair_parsed (by decide) c.kind c.status) s.conditions
  have haddresses : Parsed.IsList Address.SaidBy _ s.addresses :=
    isList_parsed (fun a => saysPair_parsed (by decide) a.kind a.address) s.addresses
  refine ⟨_, hasMembers_parsed _, .inl ?_, .inl ?_⟩
  · simpa [Json.parsedMembers] using hconditions
  · simpa [Json.parsedMembers] using haddresses

def Node.toJson (n : Node) : Json :=
  .obj [("metadata", n.metadata.toJson), ("status", n.status.toJson)]

/-- A written node says what the node is like. -/
theorem Node.saidBy_parsed (n : Node) : n.SaidBy (Json.parsed n.toJson) := by
  refine ⟨_, hasMembers_parsed _, ?_, .inl ?_⟩ <;>
    simp [Json.parsedMembers, Metadata.saidBy_parsed, Status.saidBy_parsed]

/-- Of all nodes there is a listing. -/
theorem exists_listing (nodes : List Node) :
    ∃ text v, Spells (String.toList text) v ∧ Lists v nodes := by
  let listing : Json := .obj [("items", .arr (nodes.map Node.toJson))]
  refine ⟨listing.compact, Json.parsed listing, ?_, _, hasMembers_parsed _, ?_⟩
  · rw [Json.compact, String.toList_ofList]
    exact Json.spells_compactChars listing
  · simpa [Json.parsedMembers] using isList_parsed Node.saidBy_parsed nodes

/-! ### Reading

What is known of a part of a node after some fields is a draft with just these fields. It is given
as a function of the fields that were seen, so the order of the members does not matter. -/

/-- A pair is read as what is said of it, whichever name comes first. -/
theorem pairDecoder_of_says {first second : String} {make : String → String → α}
    (hne : first ≠ second)
    (hv : v.Whole) (h : SaysPair first second v s t) :
    pairDecoder first second make v = .ok (make s t) := by
  obtain ⟨ms, hmembers, hfirst, hsecond⟩ := h
  let known (seen : List String) : Option String × Option String :=
    (if first ∈ seen then some s else none, if second ∈ seen then some t else none)
  refine Decoder.record_of_members known hv hmembers ?_ ?_
  · refine List.forall_mem_cons.mpr ⟨?_, List.forall_mem_singleton.mpr ?_⟩
    · refine .of_atMostOnce hfirst.atMostOnce (fun _ _ => Decoder.text_of_isText) fun seen => ?_
      simp [known, hne.symm]
    · refine .of_atMostOnce hsecond.atMostOnce (fun _ _ => Decoder.text_of_isText) fun seen => ?_
      simp [known, hne]
  · intro seen hall
    obtain ⟨hfirst', hall'⟩ := List.forall_mem_cons.mp hall
    have hsecond' := List.forall_mem_singleton.mp hall'
    simp [known, hfirst.mem_seen hfirst', hsecond.mem_seen hsecond']

/-- Metadata are read as what is said of them. -/
theorem Metadata.decoder_of_saidBy {m : Metadata} (hv : v.Whole) (h : m.SaidBy v) :
    decoder v = .ok m := by
  obtain ⟨ms, hmembers, hname, hlabels, hannotations⟩ := h
  let known (seen : List String) : Metadata.Draft :=
    { name := if "name" ∈ seen then some m.name else none
      labels := if "labels" ∈ seen then some m.labels else none
      annotations := if "annotations" ∈ seen then some m.annotations else none }
  -- Each field is read as what is said, and all together make the metadata.
  refine Decoder.record_of_members known hv hmembers ?_ ?_
  · refine List.forall_mem_cons.mpr ⟨?_,
      List.forall_mem_cons.mpr ⟨?_, List.forall_mem_singleton.mpr ?_⟩⟩
    · exact .of_atMostOnce hname.atMostOnce
        (fun _ _ => Decoder.text_of_isText) fun seen => by simp [known]
    · exact .of_atMostOnce hlabels (fun _ _ => Decoder.textMap_of_isMap) fun seen => by simp [known]
    · exact .of_atMostOnce hannotations
        (fun _ _ => Decoder.textMap_of_isMap) fun seen => by simp [known]
  · intro seen hall
    obtain ⟨hname', hall'⟩ := List.forall_mem_cons.mp hall
    obtain ⟨hlabels', hall''⟩ := List.forall_mem_cons.mp hall'
    have hannotations' := List.forall_mem_singleton.mp hall''
    simp [known, hname.mem_seen hname', apply_ite (Option.getD · TextMap.empty),
      hlabels.ite_seen hlabels', hannotations.ite_seen hannotations']

theorem Status.decoder_of_saidBy {s : Status} (hv : v.Whole) (h : s.SaidBy v) :
    decoder v = .ok s := by
  obtain ⟨ms, hmembers, hconditions, haddresses⟩ := h
  let known (seen : List String) : Status :=
    { conditions := if "conditions" ∈ seen then s.conditions else []
      addresses := if "addresses" ∈ seen then s.addresses else [] }
  refine Decoder.record_of_members known hv hmembers ?_ ?_
  · refine List.forall_mem_cons.mpr ⟨?_, List.forall_mem_singleton.mpr ?_⟩
    · refine .of_atMostOnce (b := s.conditions) hconditions
        (fun v hv h => ?_) fun seen => by simp [known]
      exact Decoder.list_of_isList (fun v c => pairDecoder_of_says (by decide)) hv h
    · refine .of_atMostOnce (b := s.addresses) haddresses
        (fun v hv h => ?_) fun seen => by simp [known]
      exact Decoder.list_of_isList (fun v a => pairDecoder_of_says (by decide)) hv h
  · intro seen hall
    obtain ⟨hconditions', hall'⟩ := List.forall_mem_cons.mp hall
    have haddresses' := List.forall_mem_singleton.mp hall'
    simp [known, hconditions.ite_seen hconditions', haddresses.ite_seen haddresses']

/-- A node is read as what is said of it. -/
theorem Node.decoder_of_saidBy {n : Node} (hv : v.Whole) (h : n.SaidBy v) : decoder v = .ok n := by
  obtain ⟨ms, hmembers, hmetadata, hstatus⟩ := h
  let known (seen : List String) : Option Metadata × Status :=
    (if "metadata" ∈ seen then some n.metadata else none, if "status" ∈ seen then n.status else {})
  refine Decoder.record_of_members known hv hmembers ?_ ?_
  · refine List.forall_mem_cons.mpr ⟨?_, List.forall_mem_singleton.mpr ?_⟩
    · refine .of_atMostOnce hmetadata.atMostOnce (fun _ => Metadata.decoder_of_saidBy)
        fun seen => ?_
      simp [known]
    · refine .of_atMostOnce hstatus (fun _ => Status.decoder_of_saidBy) fun seen => ?_
      simp [known]
  · intro seen hall
    obtain ⟨hmetadata', hall'⟩ := List.forall_mem_cons.mp hall
    have hstatus' := List.forall_mem_singleton.mp hall'
    simp only [known, hmetadata.mem_seen hmetadata', hstatus.ite_seen hstatus', if_true]
    rfl

/-- A listing is read as the nodes that it lists. -/
theorem listingDecoder_of_lists (hv : v.Whole) (h : Lists v nodes) :
    listingDecoder v = .ok nodes := by
  obtain ⟨ms, hmembers, hitems⟩ := h
  let known (seen : List String) : Option (List Node) := if "items" ∈ seen then some nodes else none
  refine Decoder.record_of_members known hv hmembers (List.forall_mem_singleton.mpr ?_) ?_
  · refine .of_atMostOnce (b := nodes) hitems.atMostOnce
      (fun v hv h => ?_) fun seen => by simp [known]
    exact Decoder.list_of_isList (fun v n => Node.decoder_of_saidBy) hv h
  · intro seen hall
    have hitems' := List.forall_mem_singleton.mp hall
    simp [known, hitems.mem_seen hitems']

/-- Of every text of a listing exactly its nodes are read, in their order. -/
theorem nodesOf_spelled (hspells : Spells text.toList v) (hlists : Lists v nodes) :
    Kubectl.nodesOf (Utf8.encode text) = .ok nodes := by
  rw [Kubectl.nodesOf, readListing, Decoder.decode, Utf8.encode, Json.read_of_spells hspells]
  simp only [listingDecoder_of_lists hspells.whole hlists]
  rfl

/-- A listing with its fields in another order, with other fields and blanks, and with escapes in
a name and in a value. -/
def scrambledListing : String :=
  "\x7b \"items\":[\x7b\"spec\":\x7b\"metadata\":[null,\x7b\"name\":7\x7d]\x7d," ++
    "\"status\":\x7b\"conditions\":[\x7b\"status\":\"True\",\"type\":\"Ready\"\x7d]\x7d," ++
    "\"metadata\":\x7b\"n\\u0061me\":\"\\ud83d\\ude00\"\x7d\x7d]\x7d\n"

def scrambledNode : Node := ⟨"😀", .empty, .empty, [⟨"Ready", "True"⟩], []⟩

theorem metadata_scrambled : ∃ v : Parsed,
    Spells "\x7b\"n\\u0061me\":\"\\ud83d\\ude00\"\x7d".toList v ∧
      scrambledNode.metadata.SaidBy v := by
  -- The key, one letter of it by its number.
  obtain ⟨key, hkey, hname⟩ :
      ∃ ps, QuotedText ['"', 'n', '\\', 'u', '0', '0', '6', '1', 'm', 'e', '"'] ps ∧
        Means ps "name".toList :=
    ⟨_, .quoted (.char (by decide) (by decide) (by decide) (.unit rfl rfl rfl rfl
      (.char (by decide) (by decide) (by decide)
        (.char (by decide) (by decide) (by decide) .nil)))),
      .bytes (.unit (c := 'a') (by decide) (.bytes (.bytes .nil)))⟩
  -- The name, one character by two surrogates.
  obtain ⟨value, hvalue, hmeans⟩ :
      ∃ ps, QuotedText ['"', '\\', 'u', 'd', '8', '3', 'd', '\\', 'u', 'd', 'e', '0', '0', '"'] ps ∧
        Means ps "😀".toList :=
    ⟨_, .quoted (.unit rfl rfl rfl rfl (.unit rfl rfl rfl rfl .nil)),
      .pair (by decide : 61 < 1024) (by decide : 512 < 1024) rfl .nil⟩
  have hnamed : Named (key, .string value) "name" := hname
  refine ⟨_, Spells.object (.one hkey (.string hvalue)), _, ⟨rfl, by simpa using ⟨_, hnamed⟩⟩, ?_,
    .inr ⟨rfl, ?_⟩, .inr ⟨rfl, ?_⟩⟩
  · simpa [hnamed.iff] using ⟨value, rfl, hmeans⟩
  · simp [hnamed.iff]
  · simp [hnamed.iff]

theorem lists_scrambled : ∃ v, Spells scrambledListing.toList v ∧ Lists v [scrambledNode] := by
  -- Of the members of the node one is unknown, and its value has a `metadata` of its own.
  let spec : Json := .obj [("metadata", .arr [.null, .obj [("name", .int 7)]])]
  let condition : Json := .obj [("status", .str "True"), ("type", .str "Ready")]
  let status : Json := .obj [("conditions", .arr [condition])]
  obtain ⟨metadata, hmetadataText, hmetadata⟩ := metadata_scrambled
  have hcondition : Condition.SaidBy (Json.parsed condition) ⟨"Ready", "True"⟩ := by
    refine ⟨_, hasMembers_parsed _, ?_, ?_⟩ <;> simp [Json.parsedMembers, isText_parsed]
  have hstatus : scrambledNode.status.SaidBy (Json.parsed status) := by
    refine ⟨_, hasMembers_parsed _, .inl ?_, .inr ⟨rfl, ?_⟩⟩
    · simpa [Json.parsedMembers] using ⟨_, rfl, .cons hcondition .nil⟩
    · simp [Json.parsedMembers]
  let members :=
    [(Json.pieces "spec", Json.parsed spec), (Json.pieces "status", Json.parsed status),
    (Json.pieces "metadata", metadata)]
  have hmembersText := Json.SpellsMembers.more (Json.quotedText_quote "spec")
    (Json.spells_compactChars spec) <| .more (Json.quotedText_quote "status")
      (Json.spells_compactChars status) (.one (Json.quotedText_quote "metadata") hmetadataText)
  have hnode : Node.SaidBy (.object members .closed) scrambledNode := by
    refine ⟨members, ⟨rfl, by simp [members]⟩, ?_, .inl ?_⟩
    · simpa [members] using hmetadata
    · simpa [members] using hstatus
  have hitemsText := QuotedText.blankBefore (c := ' ') (by simp [Json.IsBlank])
    (Json.quotedText_quote "items")
  have hspells := Spells.blankAfter (c := '\n') (by simp [Json.IsBlank])
    (.object (.one hitemsText (.array (.one (.object hmembersText)))))
  refine ⟨.object [(Json.pieces "items", .array [.object members .closed] .closed)] .closed, ?_,
    _, ⟨rfl, by simp⟩, by simpa using ⟨_, rfl, .cons hnode .nil⟩⟩
  convert hspells using 1
  decide +kernel

/-- The node is read from its scrambled listing. -/
theorem nodesOf_scrambled : ∃ v, Spells scrambledListing.toList v ∧ Lists v [scrambledNode] ∧
    Kubectl.nodesOf (Utf8.encode scrambledListing) = .ok [scrambledNode] := by
  obtain ⟨v, hspells, hlists⟩ := lists_scrambled
  exact ⟨v, hspells, hlists, nodesOf_spelled hspells hlists⟩

end NodeAdmission.Cluster
