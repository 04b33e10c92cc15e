import AuditConfig.Proofs.Rebuilding
import AuditConfig.Proofs.Totality
import AuditConfig.Proofs.Unadorned
import AuditConfig.Props.ProcessorNames

/-!
# The names that an object lists

An object lists a text (`Props.Lists`) if it is of the common class or of a plain class below
it, holds the text in the field of the list, and holds nothing under the name by which the
names are asked for.  Its processor names are then those of the text
(`Lists.processorNames_eq`): names and nothing else, those of each part of a list in turn,
and whatever a list is made of, however it is padded (`processorNames_of_lists`).

What is built from a raw map lists what the raw map has for it (`lists_of_build`), and the
common class can be built from every raw configuration.
-/

namespace AuditConfig

namespace Props

/-- The field that holds the list. -/
def listSpec : FieldSpec := Processor.textSpec processorsName "audit.processors" ""

/-- An object is asked for its processor names and holds a text for them. -/
structure Lists (o : Props) (text : String) : Prop where
  plain : o.cls.Plain
  common : o.cls.isA Processor.common.cls = true
  unasked : o.holding? askedName = none
  holds : o.held? processorsName = some (.text text)

namespace Lists

variable {o : Props} {text : String}

/-- **What an object lists are its processor names.** -/
theorem processorNames_eq (h : o.Lists text) :
    o.processorNames = .ok ((Text.names text.toList).map String.ofList) := by
  have hfinder := (h.plain.reads askedName).finder
  have visible : ∀ name, o.visible? name = o.holding? name := fun name =>
    visible?_eq_holding? (h.plain.hasSlot name) (h.plain.reads name).contents
  have hvisible : o.visible? askedName = none := by rw [visible, h.unasked]
  have hfound : o.found processorsName = .ok (.value (.text text)) :=
    found_of_visible hfinder (by rw [visible, holding?_of_held? h.holds])
  simp [processorNames, hfinder, hvisible, h.common, h.plain.hasSlot, listedNames, hfound]

end Lists

/-- **What is built from a raw map lists what the raw map has for it,** also if that is
empty. -/
theorem lists_of_build {raw : Entries Key Value} {o : Props} {text : String}
    (hb : Processor.common.cls.build (.ofEntries raw) = .ok o)
    (htext : rawAt raw listSpec.key = .text text) : o.Lists text := by
  obtain ⟨r, hr, rfl⟩ := (PropsClass.build_ofEntries_eq_ok_iff ..).1 hb
  have hspec : listSpec ∈ Processor.common.cls.specs := by
    change listSpec ∈ Processor.commonSpecs
    simp [Processor.commonSpecs, listSpec, processorsName]
  have hnames : (Processor.common.cls.specs.map (·.name)).Nodup := by
    change (Processor.commonSpecs.map (·.name)).Nodup
    decide
  obtain ⟨outcome, hresolve⟩ := FieldSpec.keeps_text (s := listSpec) rfl (t := text)
    fun _ => rfl
  rw [← htext] at hresolve
  have hget : r.props.fields.get? processorsName = some (rawAt raw listSpec.key) :=
    (PropsClass.Accepted.processor .common).get?_fields_of_resolved hnames hr hspec hresolve
  obtain ⟨_, _, hprops⟩ := PropsClass.exists_make_of_reportEntries hr
  have hcls : r.props.cls = Processor.common.cls := by rw [hprops]; rfl
  have hun := unadorned_of_reportEntries (PropsClass.namesFields_processor .common) hr
  refine ⟨hcls ▸ PropsClass.plain_processor .common, hcls ▸ PropsClass.isA_self _,
    hun.holding?_eq_none (by decide) ?_, ?_⟩
  · rw [hcls]
    decide
  · rw [held?, if_neg (by decide), hget, htext]
    rfl

/-- The common class can be built from every raw configuration. -/
theorem exists_build_common (raw : RawConfig) :
    ∃ o, Processor.common.cls.build raw.value = .ok o := by
  have htype : ∀ s ∈ Processor.commonSpecs, s.type ≠ .integer := by decide
  exact (PropsClass.exists_report_iff (.processor .common) raw).2.1.2
    ⟨PropsClass.buildable_processor .common, fun s hs t ht => htype s hs ht.1⟩

/-- **The processor names of an object are a clean list.**  Every one of them is a name: not
empty, without a comma and without blanks at its ends.  A list and another with a comma
between them have the names of the one and then those of the other.  What is listed as
certain names, each between blanks, with blank parts anywhere, are these names and no others;
this holds as well of a list that an object of the common class is built from. -/
theorem processorNames_of_lists :
    (∀ (o : Props) (text : String), o.Lists text → ∃ ns, o.processorNames = .ok ns ∧
      ∀ n ∈ ns, n ≠ "" ∧ ',' ∉ n.toList ∧ Text.strip Text.isBlank n.toList = n.toList) ∧
    (∀ (o p q : Props) (a b : String), o.Lists a → p.Lists b → q.Lists (a ++ "," ++ b) →
      ∃ ns ms, o.processorNames = .ok ns ∧ p.processorNames = .ok ms ∧
        q.processorNames = .ok (ns ++ ms)) ∧
    (∀ (o : Props) (ns parts : List (List Char)), Text.Padded ns parts →
      o.Lists (String.ofList ([','].intercalate parts)) →
        o.processorNames = .ok (ns.map String.ofList)) ∧
    ∀ (raw : RawConfig) (ns parts : List (List Char)), Text.Padded ns parts →
      raw.get? "audit.processors" = some (some (String.ofList ([','].intercalate parts))) →
        ∃ o, Processor.common.cls.build raw.value = .ok o ∧
          o.processorNames = .ok (ns.map String.ofList) := by
  have hpadded : ∀ (o : Props) (ns parts : List (List Char)), Text.Padded ns parts →
      o.Lists (String.ofList ([','].intercalate parts)) →
        o.processorNames = .ok (ns.map String.ofList) := by
    intro o ns parts hns ho
    rw [ho.processorNames_eq, String.toList_ofList, Text.names_intercalate hns]
  refine ⟨fun o text ho => ⟨_, ho.processorNames_eq, fun n hn => ?_⟩,
    fun o p q a b ho hp hq => ⟨_, _, ho.processorNames_eq, hp.processorNames_eq, ?_⟩, hpadded,
    fun raw ns parts hns hraw => ?_⟩
  · obtain ⟨cs, hcs, rfl⟩ := List.mem_map.1 hn
    have hname := Text.isName_of_mem_names hcs
    rw [String.toList_ofList]
    exact ⟨fun h => hname.nonempty (String.ofList_eq_empty_iff.1 h), hname.single, hname.stripped⟩
  · have happend : (a ++ "," ++ b).toList = a.toList ++ ',' :: b.toList := by simp
    rw [hq.processorNames_eq, happend, Text.names_append, List.map_append]
  · obtain ⟨o, ho⟩ := exists_build_common raw
    refine ⟨o, ho, hpadded o ns parts hns (lists_of_build ho ?_)⟩
    rw [RawConfig.rawAt_entries, show listSpec.key = "audit.processors" from rfl, hraw]
    rfl

/-- Two names are read out of four parts, one of them empty and one of them blank; the blank
in the second name stays. -/
theorem processorNames_of_four_parts : ∃ o, Processor.common.cls.build
      (RawConfig.single "audit.processors" " event_id,,\t,time stamp\u3000").value = .ok o ∧
    o.processorNames = .ok ["event_id", "time stamp"] := by
  have hnames : Text.names " event_id,,\t,time stamp\u3000".toList =
      ["event_id".toList, "time stamp".toList] := by
    decide
  obtain ⟨parts, hparts, hjoined⟩ := (Text.names_eq_iff ..).1 hnames
  refine processorNames_of_lists.2.2.2 _ ["event_id".toList, "time stamp".toList] parts hparts ?_
  rw [hjoined, RawConfig.get?_single]
  rfl

end Props
end AuditConfig
