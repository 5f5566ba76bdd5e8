import NodeAdmission.Proofs.Requirements

/-!
# Lists of labels

A list is cut at its commas, and everything about it follows from one equation: the
list of two texts with a comma between them is the list of the one and then that of
the other (`Service.splitList_append`). So a list of items is read back from the text
in which they are joined.

* `pieces_eq_splitOn` — the model cuts as the library does, which knows this equation for pieces.
* `IsItem` — what an item is, by its characters: not empty, without commas and without blanks at its
  ends. Only such items come out of a list (`isItem_of_mem_splitList`), and every such item comes
  out of itself (`IsItem.splitList_eq`).
* `Inserts` — the ways to add a text to a list: in front, behind, or at one of its commas.
* `read_relabelled` — the labels of the control plane are such a list, and no other setting
  depends on their variable.
* `Server.Config.labels_read_losslessly` — the main statement: none of the labels is empty or
  padded, and a label that is added to the variable exempts the nodes that carry it and leaves
  all others as they were.
-/

namespace NodeAdmission

/-! ### Pieces -/

namespace Text

variable {separator c : Char} {cs p : List Char}

/-- The pieces between separators are those of the library. -/
theorem pieces_eq_splitOn (separator : Char) (cs : List Char) :
    pieces separator cs = cs.splitOn separator := by
  induction cs with
  | nil => rfl
  | cons c cs ih =>
    rw [pieces, List.splitOn_cons_eq_if_modifyHead, ih]
    by_cases hc : c = separator
    · rw [if_pos hc, if_pos (beq_iff_eq.mpr hc)]
    · rw [if_neg hc, if_neg (by simpa using hc)]
      obtain ⟨q, qs, hq⟩ := List.exists_cons_of_ne_nil (List.splitOn_ne_nil separator cs)
      rw [hq]
      rfl

theorem pieces_append (separator : Char) (cs ds : List Char) :
    pieces separator (cs ++ separator :: ds) = pieces separator cs ++ pieces separator ds := by
  simp only [pieces_eq_splitOn, List.splitOn_append_cons_self]

theorem not_mem_of_mem_pieces (h : p ∈ pieces separator cs) : separator ∉ p := by
  induction cs generalizing p with
  | nil =>
    rw [pieces, List.mem_singleton] at h
    exact h ▸ List.not_mem_nil
  | cons c cs ih =>
    rw [pieces] at h
    split at h
    · rcases List.mem_cons.mp h with rfl | h
      · exact List.not_mem_nil
      · exact ih h
    · next hc =>
      split at h
      · next hnone =>
        rw [pieces_eq_splitOn] at hnone
        exact absurd hnone (List.splitOn_ne_nil separator cs)
      · next q qs hpieces =>
        rcases List.mem_cons.mp h with rfl | h
        · have hq : separator ∉ q := ih (hpieces ▸ List.mem_cons_self)
          simp [hq, Ne.symm hc]
        · exact ih (hpieces ▸ List.mem_cons_of_mem _ h)

theorem mem_of_mem_trimChars (h : c ∈ trimChars cs) : c ∈ cs := by
  obtain ⟨-, front, back, -, -, happend⟩ := trimChars_eq_iff.mp (rfl : trimChars cs = trimChars cs)
  rw [← happend]
  simp [h]

theorem trimChars_of_bare (h : Bare cs) : trimChars cs = cs :=
  trimChars_eq_iff.mpr ⟨h, [], [], nofun, nofun, by simp⟩

end Text

/-! ### Items -/

namespace Service

variable {raw s : String} {xs : List String}

structure IsItem (s : String) : Prop where
  nonempty : s ≠ ""
  single : ',' ∉ s.toList
  bare : Text.Bare s.toList

/-- The items are the trimmed pieces that are not empty. -/
theorem mem_splitList : s ∈ splitList raw ↔
    s ≠ "" ∧ ∃ p ∈ Text.pieces ',' raw.toList, Text.trimChars p = s.toList := by
  simp only [splitList, List.mem_map, List.mem_filter, decide_eq_true_eq]
  constructor
  · rintro ⟨_, ⟨⟨p, hp, rfl⟩, hne⟩, rfl⟩
    refine ⟨fun hempty => hne ?_, p, hp, (String.toList_ofList).symm⟩
    rw [← String.toList_ofList (l := Text.trimChars p), hempty]
    rfl
  · rintro ⟨hne, p, hp, htrim⟩
    refine ⟨s.toList, ⟨⟨p, hp, htrim⟩, fun hnil => hne ?_⟩, String.ofList_toList⟩
    rw [← String.ofList_toList (s := s), hnil]

theorem isItem_of_mem_splitList (h : s ∈ splitList raw) : IsItem s := by
  obtain ⟨hne, p, hp, htrim⟩ := mem_splitList.mp h
  refine ⟨hne, ?_, htrim ▸ Text.bare_trimChars p⟩
  rw [← htrim]
  exact fun hmem => Text.not_mem_of_mem_pieces hp (Text.mem_of_mem_trimChars hmem)

/-- A list is cut at its commas. -/
theorem splitList_append (a b : String) :
    splitList (a ++ "," ++ b) = splitList a ++ splitList b := by
  have hcut : Text.pieces ',' (a ++ "," ++ b).toList =
      Text.pieces ',' a.toList ++ Text.pieces ',' b.toList := by
    rw [String.append_assoc, String.toList_append, String.toList_append]
    exact Text.pieces_append ',' _ _
  rw [splitList, hcut]
  simp only [splitList, List.map_append, List.filter_append]

/-- An item alone is a list of one. -/
theorem IsItem.splitList_eq (h : IsItem s) : splitList s = [s] := by
  have hpiece : Text.pieces ',' s.toList = [s.toList] := by
    rw [Text.pieces_eq_splitOn, List.splitOn_eq_singleton h.single]
  have hne : s.toList ≠ [] := fun hnil => h.nonempty (String.toList_inj.mp hnil)
  simp [splitList, hpiece, Text.trimChars_of_bare h.bare, hne]

/-- Items are read back from the text in which they are joined. -/
theorem splitList_intercalate (h : ∀ x ∈ xs, IsItem x) : splitList (",".intercalate xs) = xs := by
  induction xs with
  | nil => rfl
  | cons x xs ih =>
    -- The first item is cut off at the first comma.
    obtain ⟨hx, hxs⟩ := List.forall_mem_cons.mp h
    cases xs with
    | nil => rw [String.intercalate_singleton, hx.splitList_eq]
    | cons y ys =>
      rw [String.intercalate_cons_cons, splitList_append, hx.splitList_eq, ih hxs]
      rfl

/-- One list is another with a text added to it: in front, behind, or at one of its commas. -/
inductive Inserts (text : String) : (raw raw' : String) → Prop
  | front (raw : String) : Inserts text raw (text ++ "," ++ raw)
  | back (raw : String) : Inserts text raw (raw ++ "," ++ text)
  | between (a b : String) : Inserts text (a ++ "," ++ b) (a ++ "," ++ text ++ "," ++ b)

variable {text raw' : String}

/-- The items of the longer list are those of the list and those of the text. -/
theorem Inserts.mem_splitList_iff (h : Inserts text raw raw') :
    s ∈ splitList raw' ↔ s ∈ splitList raw ∨ s ∈ splitList text := by
  cases h with
  | front => rw [splitList_append, List.mem_append, or_comm]
  | back => rw [splitList_append, List.mem_append]
  | between a b =>
    simp only [splitList_append, List.mem_append]
    tauto

end Service

/-! ### Labels of the control plane

A node is exempt for one of several labels, so lists with the same members exempt the same nodes,
and the order of the labels does not matter. -/

namespace Cluster.Node

variable {n : Node} {labels labels' labels'' : List String}

/-- The node carries the label, with a value that counts. -/
def Carries (n : Node) (label : String) : Prop :=
  n.labels.get? label = some "" ∨ n.labels.get? label = some "true"

/-- A node is exempt for a label that it carries. -/
theorem isControlPlane_iff :
    n.isControlPlane labels = true ↔ ∃ label ∈ labels, n.Carries label := by
  rw [isControlPlane, List.any_eq_true]
  refine exists_congr fun label => and_congr_right fun _ => ?_
  rw [Carries]
  cases n.labels.get? label with
  | none => simp
  | some value => simp

theorem isControlPlane_of_mem_iff
    (h : ∀ label, label ∈ labels'' ↔ label ∈ labels ∨ label ∈ labels') :
    n.isControlPlane labels'' = (n.isControlPlane labels || n.isControlPlane labels') := by
  rw [Bool.eq_iff_iff, Bool.or_eq_true]
  simp only [isControlPlane_iff, h, or_and_right, exists_or]

end Cluster.Node

namespace Server.Config

open Service (Lookup IsItem Inserts splitList)

variable {lookup : Lookup} {c : Config} {raw : String}

/-- The environment with another value of the variable that names the labels. -/
def relabelled (lookup : Lookup) (raw : String) : Lookup :=
  Function.update lookup "CONTROL_PLANE_LABELS" (some raw)

/-- No other setting depends on the labels. -/
theorem read_relabelled (h : read lookup = .ok c) (hraw : splitList raw ≠ []) :
    read (relabelled lookup raw) = .ok { c with controlPlaneLabels := splitList raw } := by
  have hfrom := readFrom_of_read h
  have hlabels : readLabels (relabelled lookup raw) = .ok (splitList raw) := by
    rw [readLabels, relabelled, Function.update_self]
    dsimp only
    split
    · next hnone => exact absurd hnone hraw
    · next hsome => rw [hsome]
  -- All other variables are as they were, and so is what is read of them.
  have hsame {key : String} (hkey : key ≠ "CONTROL_PLANE_LABELS") :
      relabelled lookup raw key = lookup key := Function.update_of_ne hkey _ _
  have htext {key default : String} (hkey : key ≠ "CONTROL_PLANE_LABELS") :
      (relabelled lookup raw).text key default = lookup.text key default := by
    rw [Lookup.text, Lookup.text, hsame hkey]
  have hnumber {α : Type} {readNumber : String → Except NumeralError α} {key default : String}
      (hkey : key ≠ "CONTROL_PLANE_LABELS") :
      (relabelled lookup raw).number readNumber key default =
        lookup.number readNumber key default := by
    rw [Lookup.number, Lookup.number, htext hkey]
  have hseconds {key default : String} (hkey : key ≠ "CONTROL_PLANE_LABELS") :
      (relabelled lookup raw).seconds key default = lookup.seconds key default := by
    rw [Lookup.seconds, Lookup.seconds, hnumber hkey]
  exact read_of_readFrom
    { listenOn := (hnumber (by decide)).trans hfrom.listenOn
      cryptoUrl := hfrom.cryptoUrl.trans (htext (by decide)).symm
      cryptoClientName := hfrom.cryptoClientName.trans (htext (by decide)).symm
      decryptKeyName := hfrom.decryptKeyName.trans (htext (by decide)).symm
      agentPort := (hnumber (by decide)).trans hfrom.agentPort
      kubectl := hfrom.kubectl.trans (htext (by decide)).symm
      kubeconfig := hfrom.kubeconfig.trans (congrArg _ (hsame (by decide)).symm)
      internalIpAnnotation := hfrom.internalIpAnnotation.trans (htext (by decide)).symm
      controlPlaneLabels := hlabels
      scanInterval := (hseconds (by decide)).trans hfrom.scanInterval
      retryCooldown := (hseconds (by decide)).trans hfrom.retryCooldown
      bootstrapRetry := (hseconds (by decide)).trans hfrom.bootstrapRetry
      requestTimeout := (hseconds (by decide)).trans hfrom.requestTimeout
      commandTimeout := (hseconds (by decide)).trans hfrom.commandTimeout
      pingCount := (hnumber (by decide)).trans hfrom.pingCount
      pingWait := (hseconds (by decide)).trans hfrom.pingWait }

theorem isItem_default : ∀ label ∈ defaultControlPlaneLabels, IsItem label := by
  have hlist : defaultControlPlaneLabels =
      splitList "node-role.kubernetes.io/master,node-role.kubernetes.io/control-plane" := by
    decide +kernel
  rw [hlist]
  exact fun label => Service.isItem_of_mem_splitList

/-- All labels of an accepted configuration are items. -/
theorem isItem_of_read (h : read lookup = .ok c) :
    ∀ label ∈ c.controlPlaneLabels, IsItem label := by
  rw [readLabels_eq_ok (readFrom_of_read h).controlPlaneLabels]
  cases lookup "CONTROL_PLANE_LABELS" with
  | some raw => exact fun label => Service.isItem_of_mem_splitList
  | none => exact isItem_default

/-- A label that is added to the variable is added to the labels, and nothing else changes. -/
theorem read_inserted {text raw' : String} (h : read lookup = .ok c)
    (hset : lookup "CONTROL_PLANE_LABELS" = some raw) (hinserts : Inserts text raw raw') :
    ∃ labels, read (relabelled lookup raw') = .ok { c with controlPlaneLabels := labels } ∧
      ∀ n : Cluster.Node, n.isControlPlane labels =
        (n.isControlPlane c.controlPlaneLabels || n.isControlPlane (splitList text)) := by
  have hlabels : readLabels lookup = .ok c.controlPlaneLabels :=
    (readFrom_of_read h).controlPlaneLabels
  have hold : c.controlPlaneLabels = splitList raw := by
    rw [readLabels_eq_ok hlabels, hset]
    rfl
  -- The list was accepted, so it has an item, which it keeps.
  have hsome : c.controlPlaneLabels ≠ [] := by
    intro hnone
    rw [readLabels, hset] at hlabels
    simp [← hold, hnone] at hlabels
  obtain ⟨label, hlabel⟩ := List.exists_mem_of_ne_nil _ hsome
  have hkept : label ∈ splitList raw' := hinserts.mem_splitList_iff.mpr (.inl (hold ▸ hlabel))
  refine ⟨_, read_relabelled h (List.ne_nil_of_mem hkept), fun n => ?_⟩
  rw [hold]
  exact Cluster.Node.isControlPlane_of_mem_iff fun _ => hinserts.mem_splitList_iff

/-- Lists of labels are read without loss. The labels of a list are texts without commas that are
neither empty nor padded, a list is cut at its commas, and labels that are joined by commas are
read back. So in a configuration that is accepted a node is exempt just for a label that is neither
empty nor padded and that it carries, and wherever a text is inserted into the variable the
configuration is accepted as well, and the nodes that are exempt are those that were and those that
carry a label of the text. -/
theorem labels_read_losslessly :
    (∀ raw, ∀ s ∈ splitList raw, IsItem s) ∧
    (∀ a b, splitList (a ++ "," ++ b) = splitList a ++ splitList b) ∧
    (∀ xs : List String, (∀ x ∈ xs, IsItem x) → splitList (",".intercalate xs) = xs) ∧
    ∀ lookup c, read lookup = .ok c →
      (∀ n : Cluster.Node, n.isControlPlane c.settings.controlPlaneLabels = true ↔
        ∃ label ∈ c.settings.controlPlaneLabels, IsItem label ∧ n.Carries label) ∧
      ∀ raw text raw', lookup "CONTROL_PLANE_LABELS" = some raw → Inserts text raw raw' →
        ∃ c', read (relabelled lookup raw') = .ok c' ∧
          c'.settings = { c.settings with controlPlaneLabels := c'.controlPlaneLabels } ∧
          ∀ n : Cluster.Node, n.isControlPlane c'.settings.controlPlaneLabels =
            (n.isControlPlane c.settings.controlPlaneLabels ||
              n.isControlPlane (splitList text)) := by
  refine ⟨fun raw s => Service.isItem_of_mem_splitList, Service.splitList_append,
    fun xs => Service.splitList_intercalate, fun lookup c h => ⟨fun n => ?_, ?_⟩⟩
  · rw [Cluster.Node.isControlPlane_iff]
    refine exists_congr fun label => and_congr_right fun hlabel => ?_
    -- Which labels are items need not be asked: all of them are.
    exact (and_iff_right (isItem_of_read h label hlabel)).symm
  · intro raw text raw' hset hinserts
    obtain ⟨labels, hread, hexempt⟩ := read_inserted h hset hinserts
    exact ⟨_, hread, rfl, hexempt⟩

/-- A list of labels with blanks, among them some of Unicode, and with items that are empty. -/
def paddedList : String := " tier\u3000,,\u00a0role/main "

def paddedLabels : Lookup := fun key =>
  if key = "CONTROL_PLANE_LABELS" then some paddedList else none

def edgeNode : Cluster.Node :=
  { name := "edge-1", labels := .insert .empty "edge" "true", annotations := .empty,
    conditions := []
    addresses := [] }

/-- A padded list has two labels, which are read back when they are joined. With a third one behind
a line break added to it, it exempts a node that it did not exempt before. -/
theorem edge_label_added :
    (∀ s ∈ splitList paddedList, IsItem s) ∧ splitList paddedList = ["tier", "role/main"] ∧
    splitList (",".intercalate ["tier", "role/main"]) = ["tier", "role/main"] ∧
    ∃ c c', read paddedLabels = .ok c ∧
      read (relabelled paddedLabels (paddedList ++ "," ++ "\nedge")) = .ok c' ∧
      edgeNode.isControlPlane c.settings.controlPlaneLabels = false ∧
      edgeNode.isControlPlane c'.settings.controlPlaneLabels = true ∧
      ∃ label ∈ c'.settings.controlPlaneLabels, IsItem label ∧ edgeNode.Carries label := by
  obtain ⟨hitems, -, hjoined, hconfig⟩ := labels_read_losslessly
  have hsplit : splitList paddedList = ["tier", "role/main"] := by decide +kernel
  obtain ⟨c, hc⟩ : ∃ c, read paddedLabels = .ok c :=
    Service.fault?_eq_none_iff.mp (by decide +kernel)
  obtain ⟨c', hc', -, hexempt⟩ := (hconfig paddedLabels c hc).2 paddedList "\nedge" _ rfl (.back _)
  have hlabels : c.settings.controlPlaneLabels = ["tier", "role/main"] :=
    (readLabels_eq_ok (readFrom_of_read hc).controlPlaneLabels).trans hsplit
  have hbefore : edgeNode.isControlPlane c.settings.controlPlaneLabels = false := by
    rw [hlabels]
    decide +kernel
  have hadded : edgeNode.isControlPlane (splitList "\nedge") = true := by decide +kernel
  have hafter : edgeNode.isControlPlane c'.settings.controlPlaneLabels = true := by
    rw [hexempt, hbefore, hadded]
    rfl
  exact ⟨hitems paddedList, hsplit, hjoined _ (hsplit ▸ hitems paddedList), c, c', hc, hc',
    hbefore, hafter,
    ((hconfig _ c' hc').1 edgeNode).mp hafter⟩

end Server.Config
end NodeAdmission
