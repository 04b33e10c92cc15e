import AuditConfig.Proofs.Reached
import AuditConfig.Props.Compare
import AuditConfig.Value.Pairs
import AuditConfig.Value.Proper

/-!
# Copies

To copy an object as a class is to ask the class for what copies as it, then the object for what
copies objects, and to go through its additional properties.  What stands in place of any of these
is used in its stead, and then there is no copy (`Props.Copyable`).  Of an object that a class
makes nothing else stands in the way, since all that is no field is as in a new object
(`copyFlaw?_eq_copyShadow?`).  The copy is then the object itself, with a map for the additional
properties that is made anew (`AsMade.copyAs_iff`); a map gives the same map again, and a
list the bindings that its items stand for.

The copy is equal to the object if the class has objects compared by what they hold
(`Props.Compares`, `AsMade.compare_self_iff`).  That includes what is not a number, since a proper
value is equal to itself.

`copyAs_faithful` puts these together.  A class with a field of the name of what copies objects
is accepted, and its objects are not copied (`uncopied_of_versioned`).
-/

namespace AuditConfig
namespace Props

variable {c : PropsClass} {o : Props}

/-- Nothing stands in place of what copies an object, or hides its additional properties. -/
structure Copies (o : Props) : Prop where
  reads : o.cls.Reads additionalName
  copier : o.cls.hasSlot copierName = false
  uncovered : o.holding? copierName = none
  shallow : o.cls.hasSlot shallowCopierName = false
  unreplaced : o.cls.replaced.get? shallowCopierName = none

/-- Nothing stands in place of what copies an object as a class. -/
structure Copyable (target : PropsClass) (o : Props) : Prop where
  slotless : target.hasSlot copyingName = false
  copies : o.Copies

/-- It can be asked whether an object is of the class to copy it as. -/
theorem kinshipFlaw?_eq_none_iff (target : PropsClass) (o : Props) :
    o.kinshipFlaw? target = none ↔
      target.hasSlot copyingName = false ∧ o.cls.ownValue? PropsClass.finderName = none := by
  unfold kinshipFlaw?
  cases target.hasSlot copyingName <;> simp

namespace AsMade

variable (h : AsMade c o)
include h

theorem isTrue_overflow : o.overflow.isTrue = false := by
  rw [h.unadorned.overflow, PropsClass.isTrue_firstOverflow]

/-- Nothing is found for a name of which the class has a slot. -/
theorem slotFound_eq_error (name : String) : ∃ e, o.slotFound name = .error e := by
  obtain ⟨e, he⟩ := lastResort_eq_error h.isTrue_overflow h.unadorned.loose name
  exact ⟨e, by rw [slotFound, h.slots, he]; rfl⟩

theorem copierLack?_eq_none_iff : o.copierLack? = none ↔ o.cls.hasSlot copierName = false := by
  obtain ⟨e, he⟩ := h.slotFound_eq_error copierName
  unfold copierLack?
  cases o.cls.hasSlot copierName <;> simp [he]

/-- Nothing is called in place of what copies the object exactly if neither it nor its class
has anything there. -/
theorem copyShadow?_eq_none_iff (hcontents : o.cls.hidesContents = false)
    (hcopier : o.cls.hasSlot copierName = false) : o.copyShadow? = none ↔
      o.holding? copierName = none ∧ o.cls.hasSlot shallowCopierName = false ∧
        o.cls.replaced.get? shallowCopierName = none := by
  -- What makes objects is asked for again; the object could not have been built without it.
  have hcreator : o.cls.uncallable? PropsClass.creatorName = none := by
    rw [PropsClass.uncallable?, h.cls, h.created]
    rfl
  have hown : o.ownCopier? = (o.holding? copierName).map fun x => .call x.callError := by
    rw [ownCopier?, hcopier, visible?_eq_holding? hcopier hcontents]
    rfl
  obtain ⟨e, he⟩ := h.slotFound_eq_error shallowCopierName
  rw [copyShadow?, hcreator, hown]
  unfold shallowCopier?
  cases o.cls.hasSlot shallowCopierName <;>
    simp [he, h.unadorned.loose, Entries.get?_empty, PropsClass.uncallable?]

/-- Nothing else stands in the way of copying the object. -/
theorem copyFlaw?_eq_copyShadow? : o.copyFlaw? = o.copyShadow? := by
  have hspecial : o.specialLack? = none := by
    rw [specialLack?, overflowFound, recordFound, h.unadorned.unset]
    rfl
  have hhidden : o.hidden.kind = .null ∨ o.hidden.kind = .map := by
    rw [h.hidden, PropsClass.firstHidden]
    split
    · exact .inl rfl
    · exact .inr rfl
  have hrecord : o.recordFlaw? = none := by
    rw [recordFlaw?, recordFound, h.unadorned.unset, h.unadorned.record]
    rfl
  have hoptions : o.ownOptionsFlaw? = none := by
    simp [ownOptionsFlaw?, h.unadorned.loose, Entries.get?_empty, h.unadorned.copiesAside_eq]
  rw [copyFlaw?, hspecial, hoptions, hrecord]
  simp [hhidden]

variable {v : Value} (hv : o.additional = some v)
include hv

theorem found_additional_iff (x : Holding) :
    o.found additionalName = .ok x ↔ o.cls.Reads additionalName ∧ x = .value v := by
  have hheld : o.held? additionalName = some v := (if_pos rfl).trans hv
  exact found_iff_reads h.isTrue_overflow h.unadorned.loose h.slots (holding?_of_held? hheld) x

/-- What copies an object makes a map of what it holds for the additional properties. -/
theorem copiedAdditional_eq (hcopies : o.Copies) :
    o.copiedAdditional = match v.bindings with
      | .error e => .error (.additional e)
      | .ok e => .ok (.ofEntries e) := by
  have hlack := h.copierLack?_eq_none_iff.2 hcopies.copier
  have hfound := (h.found_additional_iff hv _).2 ⟨hcopies.reads, rfl⟩
  have hflaw : o.copyFlaw? = none := by
    rw [h.copyFlaw?_eq_copyShadow?,
      h.copyShadow?_eq_none_iff hcopies.reads.contents hcopies.copier]
    exact ⟨hcopies.uncovered, hcopies.shallow, hcopies.unreplaced⟩
  rw [copiedAdditional, hlack, hfound, hflaw]
  dsimp only
  cases v.bindings <;> rfl

/-- Where something stands in its place no such map is made. -/
theorem copies_of_copiedAdditional {w : Value} (hw : o.copiedAdditional = .ok w) : o.Copies := by
  unfold copiedAdditional at hw
  split at hw
  · cases hw
  · cases hw
  · cases hw
  · next hlack hfound =>
    obtain ⟨hreads, _⟩ := (h.found_additional_iff hv _).1 hfound
    have hcopier := h.copierLack?_eq_none_iff.1 hlack
    split at hw
    · cases hw
    · cases hw
    · next hflaw =>
      rw [h.copyFlaw?_eq_copyShadow?, h.copyShadow?_eq_none_iff hreads.contents hcopier] at hflaw
      exact ⟨hreads, hcopier, hflaw.1, hflaw.2.1, hflaw.2.2⟩

/-- Where nothing stands in the way, the copy is the object itself, with a map for its
additional properties that is made anew. -/
theorem copyAs_eq {target : PropsClass} (hisA : o.cls.isA target = true)
    (hcopyable : Copyable target o) : copyAs target o = match v.bindings with
      | .error e => .error (.additional e)
      | .ok e => .ok { o with additional := some (.ofEntries e) } := by
  have hkin : o.kinshipFlaw? target = none :=
    (kinshipFlaw?_eq_none_iff target o).2 ⟨hcopyable.slotless, hcopyable.copies.reads.finder⟩
  have hcopied : ∀ w, o.copied w = { o with additional := some w } := by
    intro w
    rw [copied, h.unadorned.copiesAside_eq, ← h.slots]
    rfl
  rw [copyAs, hkin]
  dsimp only
  rw [if_pos hisA, h.copiedAdditional_eq hv hcopyable.copies]
  cases v.bindings with
  | error e => rfl
  | ok e => exact congrArg Except.ok (hcopied _)

/-- An object is copied only as what it is, and where nothing stands in the way. -/
theorem copyable_of_copyAs {target : PropsClass} {p : Props} (hp : copyAs target o = .ok p) :
    o.cls.isA target = true ∧ Copyable target o := by
  obtain ⟨hkin, hisA, w, hw, _⟩ := (copyAs_eq_ok_iff ..).1 hp
  have hslotless := ((kinshipFlaw?_eq_none_iff target o).1 hkin).1
  exact ⟨hisA, hslotless, h.copies_of_copiedAdditional hv hw⟩

/-- **When an object is copied, and what the copy is.** -/
theorem copyAs_iff (target : PropsClass) (p : Props) : copyAs target o = .ok p ↔
    o.cls.isA target = true ∧ Copyable target o ∧
      ∃ e, v.bindings = .ok e ∧ p = { o with additional := some (.ofEntries e) } := by
  constructor
  · intro hp
    obtain ⟨hisA, hcopyable⟩ := h.copyable_of_copyAs hv hp
    refine ⟨hisA, hcopyable, ?_⟩
    rw [h.copyAs_eq hv hisA hcopyable] at hp
    cases hb : v.bindings with
    | error e => rw [hb] at hp; cases hp
    | ok e => rw [hb] at hp; cases hp; exact ⟨e, rfl, rfl⟩
  · rintro ⟨hisA, hcopyable, e, he, rfl⟩
    rw [h.copyAs_eq hv hisA hcopyable, he]

end AsMade

/-- All values of an object are proper. -/
structure Proper (o : Props) : Prop where
  fields : ∀ name v, o.fields.get? name = some v → v.Proper
  additional : ∀ v, o.additional = some v → v.Proper
  hidden : o.hidden.Proper

/-- An object holds the same fixtures as itself. -/
theorem standsSame_self (o : Props) : o.standsSame o = true := by
  rw [standsSame, Bool.and_eq_true, List.all_eq_true, List.all_eq_true]
  refine ⟨fun name hname => ?_, fun f hf => ?_⟩
  · rw [Entries.mem_keys_iff] at hname
    exact hname
  · rw [(o.standingFields.mem_toList_iff f.1 f.2).1 hf]
    simp

/-- The objects of a class are compared by what they hold.  What they count as, if the class
says so, has to count as the same as itself. -/
structure Compares (c : PropsClass) : Prop where
  finder : c.ownValue? PropsClass.finderName = none
  comparer : c.replaced.get? comparerName = none
  own : ∀ v, c.ownValue? Attribute.Special.ownClass.name = some v → v.meets v = true

namespace AsMade

variable (h : AsMade c o) (hp : o.Proper)
include h hp

/-- An object holds the same as itself. -/
theorem compareHeld_self : compareHeld o o = .ok true := by
  -- No map holds the hidden attributes, so that they would not meet themselves as what is no
  -- number; they are a map or nothing.
  have hhidden : o.hidden.meets o.hidden = true := by
    have hnumber : o.hidden.isNoNumber = false := by
      rw [h.hidden, PropsClass.firstHidden]
      split <;> rfl
    rw [Value.meets_eq_equal hnumber, Value.equal_self _ hp.hidden]
  have hoverflow : o.overflowFound = .ok o.overflow := by
    rw [overflowFound, h.unadorned.unset]
    rfl
  have hfields : o.fieldsSame o = true := by
    have hadditional : o.additionalSame o = true := by
      obtain ⟨v, hv⟩ := Option.isSome_iff_exists.1 h.additional
      simp [additionalSame, hv, Value.equal_self v (hp.additional v hv)]
    simp [fieldsSame, h.instead, Value.equal_self _ (Value.proper_ofTable hp.fields), hadditional,
      standsSame_self]
  have hsame : o.holdsSame o = true := by
    simp [holdsSame, apartSame, hhidden, overflowsSame, h.isTrue_overflow, hfields]
  simp [compareHeld, hhidden, hoverflow, hsame]

/-- Asked to compare itself with itself, an object says yes if the name of its class counts as
the same as itself. -/
theorem compareFirst_self_iff : compareFirst o o = .ok true ↔
    o.cls.ownValue? PropsClass.finderName = none ∧
      ∀ v, o.cls.ownValue? Attribute.Special.ownClass.name = some v → v.meets v = true := by
  have hfamily : o.family = .ok (o.cls.ownValue? Attribute.Special.ownClass.name) := by
    rw [family, h.unadorned.loose]
    rfl
  unfold compareFirst comparerFlaw?
  rw [hfamily]
  cases o.cls.ownValue? PropsClass.finderName with
  | some v => simp
  | none =>
    cases o.cls.ownValue? Attribute.Special.ownClass.name with
    | none => simp [bind, Except.bind, countsSame, h.compareHeld_self hp]
    | some v =>
      cases hv : v.meets v <;>
        simp [bind, Except.bind, pure, Except.pure, countsSame, h.compareHeld_self hp, hv]

/-- **An object is equal to itself** exactly if its class has it compared. -/
theorem compare_self_iff : compare o o = .ok (some true) ↔ Compares o.cls := by
  have hfirst := h.compareFirst_self_iff hp
  have hsame : compare o o = o.opinion o := by
    have hasks : asksSecond o o = false := by simp [asksSecond]
    rw [compare, hasks]
    cases hsaid : o.opinion o with
    | error e => simp [hsaid]
    | ok said => cases said <;> simp [hsaid]
  rw [hsame, opinion, replacement?]
  cases hcomparer : o.cls.replaced.get? comparerName with
  | none =>
    have hmap : (compareFirst o o).map some = .ok (some true) ↔ compareFirst o o = .ok true := by
      cases compareFirst o o <;> simp [Except.map]
    dsimp only [Option.map_none]
    rw [hmap, hfirst]
    exact ⟨fun hc => ⟨hc.1, hcomparer, hc.2⟩, fun hc => ⟨hc.finder, hc.own⟩⟩
  | some s =>
    have hnot : ¬ Compares o.cls := fun hc => by simpa [hcomparer] using hc.comparer
    cases s <;> simp [hnot, h.slots, Entries.get?_empty]

end AsMade

/-! ## Copies of what a class makes -/

namespace AsMade

variable (h : AsMade c o) {target : PropsClass}
include h

theorem plain (hplain : c.Plain) : o.cls.Plain := by
  rw [h.cls]
  exact ⟨hplain.replaced, hplain.privates, hplain.slotless, hplain.unlost⟩

/-- A copy is refused with the names of both classes exactly where the object is none of the
class. -/
theorem copyAs_eq_refused_iff : copyAs target o = .error (.otherClass c.name target.name) ↔
    target.hasSlot copyingName = false ∧ c.ownValue? PropsClass.finderName = none ∧
      c.isA target = false := by
  rw [copyAs_eq_otherClass_iff, kinshipFlaw?_eq_none_iff, h.cls]
  simp [PropsClass.ownValue?, PropsClass.isA, and_assoc]

/-- A map of the additional properties is copied as it is, and with it the object. -/
theorem copyAs_of_map (hisA : o.cls.isA target = true) {e : Entries Key Value}
    (he : o.additional = some (.ofEntries e)) (p : Props) :
    copyAs target o = .ok p ↔ Copyable target o ∧ p = o := by
  have hbindings : (Value.ofEntries e).bindings = .ok e := congrArg Except.ok e.ofList_toList
  have hsame : { o with additional := some (.ofEntries e) } = o := by rw [← he]
  rw [h.copyAs_iff he, hbindings]
  simp [hisA, hsame]

/-- A list of plain items is copied where every item stands for a binding; its first misfit
is told of. -/
theorem copyAs_of_list (hisA : o.cls.isA target = true) {vs : List Value}
    (hvs : o.additional = some (.list vs)) (hplain : ∀ v ∈ vs, v.IsPlainItem) :
    ((∃ p, copyAs target o = .ok p) ↔
      Copyable target o ∧ ∀ v ∈ vs, ∃ b, Value.StandsFor v b) ∧
    (Copyable target o →
      (∀ bs, List.Forall₂ Value.StandsFor vs bs → copyAs target o =
        .ok { o with additional := some (.ofEntries (.ofList bs)) }) ∧
      ∀ before v after err, vs = before ++ v :: after →
        (∀ u ∈ before, ∃ b, Value.StandsFor u b) → Value.Misfit before.length v err →
          copyAs target o = .error (.additional err)) := by
  have hcopy : ∀ bs, List.Forall₂ Value.StandsFor vs bs → Copyable target o →
      copyAs target o = .ok { o with additional := some (.ofEntries (.ofList bs)) } := by
    intro bs hbs hcopyable
    rw [h.copyAs_eq hvs hisA hcopyable, Value.bindings_list_of_forall₂ hbs]
  refine ⟨⟨fun ⟨p, hp⟩ => ?_, fun ⟨hcopyable, hall⟩ => ?_⟩, fun hcopyable => ⟨fun bs hbs =>
    hcopy bs hbs hcopyable, ?_⟩⟩
  · obtain ⟨_, hcopyable, e, he, _⟩ := (h.copyAs_iff hvs target p).1 hp
    refine ⟨hcopyable, ?_⟩
    rcases Value.forall_standsFor_or_misfit hplain 0 with
      hall | ⟨before, v, after, err, rfl, hbefore, herr⟩
    · exact hall
    · rw [Nat.zero_add] at herr
      rw [Value.bindings_list_of_misfit hbefore herr] at he
      cases he
  · obtain ⟨bs, hbs⟩ := Value.exists_forall₂_standsFor hall
    exact ⟨_, hcopy bs hbs hcopyable⟩
  · rintro before v after err rfl hbefore herr
    rw [h.copyAs_eq hvs hisA hcopyable, Value.bindings_list_of_misfit hbefore herr]

end AsMade

/-- The objects of a plain class are copied as a plain class unless they hold something
under the name of what copies them. -/
theorem copyable_iff_of_plain {target : PropsClass} (hplain : o.cls.Plain)
    (htarget : target.Plain) :
    Copyable target o ↔ o.holding? copierName = none :=
  ⟨fun h => h.copies.uncovered, fun h => ⟨htarget.hasSlot _,
    ⟨hplain.reads _, hplain.hasSlot _, h, hplain.hasSlot _, hplain.replaced _⟩⟩⟩

/-- They are compared by what they hold. -/
theorem compares_of_plain (hplain : c.Plain) : Compares c where
  finder := (hplain.reads additionalName).finder
  comparer := hplain.replaced _
  own v hv := by
    rw [PropsClass.ownValue?, hplain.replaced] at hv
    cases hv

/-- **Copies are faithful.**  Take an object that an accepted class makes, and copy it as some
class.  The copy is refused for the class, with the names of both, exactly where that class is
none of those that the first one is defined from; which class is which is told by their numbers.

As one of these, an object with a map for its additional properties is copied unless something
stands in place of what copies it.  The copy is the same object: it is of the class of the
object and not of the one that it is copied as, and under every name it holds the same value,
or nothing.  A copy of the copy is the same again, and if the maps in the object are maps
(`Proper`), it is equal to the object as long as the class has them compared.

An object with a list of plain items there is copied exactly if every item stands for a
binding besides; the copy then has a map of these bindings, and else the first item that
stands for none is told of.

Nothing stands in place of what copies the objects of ordinary classes, unless they hold
something under the name of it, which must then be a field. -/
theorem copyAs_faithful (hc : c.Accepted) (ho : MadeBy c o) (target : PropsClass) :
    (∃ refusal : CopyError,
      refusal.message = "Cannot copy " ++ c.name ++ " as " ++ target.name ∧
      (copyAs target o = .error refusal ↔ target.hasSlot copyingName = false ∧
        c.ownValue? PropsClass.finderName = none ∧
          ¬ ∃ k, c.DefinedFrom k ∧ k.id = target.id)) ∧
    ((∃ k, c.DefinedFrom k ∧ k.id = target.id) →
      (∀ e, o.additional = some (.ofEntries e) →
        ((∃ p, copyAs target o = .ok p) ↔ Copyable target o) ∧
        ∀ p, copyAs target o = .ok p → p = o ∧ copyAs target p = .ok p ∧
          (o.Proper → (compare p o = .ok (some true) ↔ Compares o.cls))) ∧
      ∀ vs, o.additional = some (.list vs) → (∀ v ∈ vs, v.IsPlainItem) →
        ((∃ p, copyAs target o = .ok p) ↔
          Copyable target o ∧ ∀ v ∈ vs, ∃ b, Value.StandsFor v b) ∧
        (Copyable target o →
          (∀ bs, List.Forall₂ Value.StandsFor vs bs → copyAs target o =
            .ok { o with additional := some (.ofEntries (.ofList bs)) }) ∧
          ∀ before v after err, vs = before ++ v :: after →
            (∀ u ∈ before, ∃ b, Value.StandsFor u b) → Value.Misfit before.length v err →
              copyAs target o = .error (.additional err))) ∧
    (c.Ordinary → target.Ordinary →
      (Copyable target o ↔ o.holding? copierName = none) ∧
      (c.fields.get? copierName = none → o.holding? copierName = none) ∧ Compares o.cls) := by
  have h := ho.asMade hc
  have hisA : o.cls.isA target = true ↔ ∃ k, c.DefinedFrom k ∧ k.id = target.id := by
    rw [← hc.isA_iff, h.cls]
    rfl
  refine ⟨⟨.otherClass c.name target.name, rfl, ?_⟩, fun hdefined => ⟨fun e he => ?_, ?_⟩,
    fun hordinary htarget => ⟨?_, ?_, ?_⟩⟩
  · rw [h.copyAs_eq_refused_iff, ← hc.isA_iff, Bool.not_eq_true]
  · have hcopy := h.copyAs_of_map (hisA.2 hdefined) he
    refine ⟨⟨fun ⟨p, hp⟩ => ((hcopy p).1 hp).1, fun hcopyable => ⟨o, (hcopy o).2 ⟨hcopyable, rfl⟩⟩⟩,
      fun p hp => ?_⟩
    obtain ⟨_, rfl⟩ := (hcopy p).1 hp
    exact ⟨rfl, hp, fun hproper => h.compare_self_iff hproper⟩
  · exact fun vs => h.copyAs_of_list (hisA.2 hdefined)
  · exact copyable_iff_of_plain (h.plain hordinary.plain) htarget.plain
  · intro hfield
    have hnone : o.cls.fields.get? copierName = none := by rw [h.cls]; exact hfield
    exact h.unadorned.holding?_eq_none (by decide) hnone
  · exact compares_of_plain (h.plain hordinary.plain)

/-- A number that is none. -/
def unnumbered : Value := .float (.nan 0)

/-- An object whose length is such a number is copied as one of the class of all objects, and
is equal to its copy. -/
theorem copyAs_of_unnumbered : ∃ o p, MadeBy Processor.eventId.cls o ∧
    o.fields.get? "length" = some unnumbered ∧ copyAs .base o = .ok p ∧ p = o ∧
    p.cls.name = "EventIdProperties" ∧ compare p o = .ok (some true) := by
  obtain ⟨new, o, hbuild, hfield, hassign, hlength, hname, hfields, hadditional, hhidden⟩ :
    ∃ new o, Processor.eventId.cls.build (.map []) = .ok new ∧
    (new.cls.fields.get? "length").isSome ∧ new.assign 0 "length" unnumbered = .ok o ∧
    o.fields.get? "length" = some unnumbered ∧ o.cls.name = "EventIdProperties" ∧
    (∀ b ∈ o.fields.toList, b.2.key?.isSome) ∧
    o.additional = some (.ofEntries .empty) ∧ o.hidden = .null :=
    ⟨_, _, rfl, rfl, rfl, rfl, rfl, by decide, rfl, rfl⟩
  have ho : MadeBy Processor.eventId.cls o := .assign (.build hbuild new.making) hfield hassign
  have hproper : o.Proper := {
    fields := fun name v hv =>
      Value.proper_of_key (hfields (name, v) ((o.fields.mem_toList_iff name v).2 hv))
    additional := fun v hv => by
      rw [hadditional] at hv
      cases hv
      exact Value.proper_map .nil (by simp)
    hidden := hhidden ▸ Value.proper_of_key rfl }
  obtain ⟨_, hdefined, hordinary⟩ := copyAs_faithful (.processor .eventId) ho .base
  obtain ⟨hcopyable, huncovered, hcompares⟩ := hordinary (.processor .eventId) .base
  obtain ⟨hexists, hcopy⟩ := (hdefined ⟨.base, .processor .eventId, rfl⟩).1 _ hadditional
  obtain ⟨p, hp⟩ := hexists.2 (hcopyable.2 (huncovered rfl))
  obtain ⟨hsame, _, hcompare⟩ := hcopy p hp
  exact ⟨o, p, ho, hlength, hp, hsame, hsame ▸ hname, (hcompare hproper).2 hcompares⟩

/-- A definition with a field of the name of what copies objects. -/
def versioned : PropsClass.Definition where
  name := "Versioned"
  home := "__main__"
  specs := some [⟨"model_copy", "k", .string, .text "d"⟩]
  fields := [("model_copy", ⟨.text, .value (.text "d")⟩)]

/-- It is accepted, and a new object of it is not copied as one of the class: what the field
holds is called. -/
theorem uncopied_of_versioned : ∃ c o,
    PropsClass.define Processor.firstFreeId .base versioned = .ok c ∧ c.Accepted ∧
    c.DefinedFrom c ∧ c.build (.map []) = .ok o ∧ MadeBy c o ∧
    o.additional = some (.ofEntries .empty) ∧
    copyAs c o = .error (.call (.notCallable "str")) := by
  have hdefine : PropsClass.define Processor.firstFreeId .base versioned =
    .ok (.extend Processor.firstFreeId PropsClass.base.options .base versioned) := rfl
  obtain ⟨o, hbuild, hadditional, hcopy⟩ : ∃ o,
    (PropsClass.extend Processor.firstFreeId PropsClass.base.options .base versioned).build
      (.map []) = .ok o ∧ o.additional = some (.ofEntries .empty) ∧
    copyAs (.extend Processor.firstFreeId PropsClass.base.options .base versioned) o =
      .error (.call (.notCallable "str")) := ⟨_, rfl, rfl, rfl⟩
  exact ⟨_, o, hdefine, .define .base hdefine, .self _, hbuild, .build hbuild o.making,
    hadditional, hcopy⟩

end Props
end AuditConfig
