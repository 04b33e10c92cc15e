import AuditConfig.PropsClass.Accepted

/-!
# What a class takes over from its parent

A class has the fields of its parent under its own (`get?_allFields`), and what it
declares under free names beside them.  A definition that declares no free name
takes over everything else from the parent as it is: what stands in place of
reserved names, the private attributes and the members
(`Definition.IsPlain.members_eq`).

`Ordinary` are the classes that only such definitions reach.  They have no slots,
no private attributes and no substitutes (`Ordinary.plain`), so that nothing
stands between a name and what their objects hold under it.
-/

namespace AuditConfig
namespace PropsClass

namespace Definition

/-- **The fields of a class are its own and, under other names, those of its
parent;** the field of the specs follows a rule of its own. -/
theorem get?_allFields (d : Definition) (parent : PropsClass) (name : String) :
    (d.allFields parent).get? name =
      if name = Attribute.specsName then d.specsField? parent
      else ((d.ownFields parent).get? name).or ((d.inherited parent).get? name) := by
  have hothers : ((overlay (d.inherited parent) (d.ownFields parent)).erase
      Attribute.specsName).toList.reverse.lookup name =
        if name = Attribute.specsName then none
        else ((d.ownFields parent).get? name).or ((d.inherited parent).get? name) := by
    rw [← Entries.get?_ofList, Entries.ofList_toList, Entries.get?_erase, get?_overlay]
  rw [allFields, Entries.get?_ofList, List.reverse_append, List.lookup_append, hothers]
  by_cases h : name = Attribute.specsName
  · subst h
    cases d.specsField? parent with
    | none => rfl
    | some f => simp
  · rw [if_neg h, if_neg h]
    cases d.specsField? parent with
    | none => simp
    | some f => simp [Entries.lookup_cons_eq, h]

theorem get?_inherited (d : Definition) (parent : PropsClass) (name : String) :
    (d.inherited parent).get? name = (parent.fields.get? name).map (d.withMember parent name) := by
  rw [inherited, Entries.get?_filterMap]
  cases parent.fields.get? name <;> rfl

theorem get?_ownFields (d : Definition) (parent : PropsClass) (name : String) :
    (d.ownFields parent).get? name =
      ((d.own.get? name).filter fun _ => Attribute.isField name).map fun f =>
        if f.default.isRequired then d.withMember parent name f else f := by
  rw [ownFields, Entries.get?_filterMap, fieldsOf, Entries.get?_filter]
  cases (d.own.get? name).filter fun _ => Attribute.isField name <;> rfl

/-- A definition that declares no free name, and no default that is a lost slot. -/
def IsPlain (d : Definition) : Prop :=
  ∀ f ∈ d.fields, Attribute.isFree f.1 = false ∧ ∀ shown, f.2.default ≠ .lostSlot shown

/-- What is declared of a name stems from declarations of it, and is a lost slot only if
one of them is. -/
theorem declared_of_get? {own : List (String × FieldDecl)} {P : String → FieldDefault → Prop}
    (hown : ∀ f ∈ own, P f.1 f.2.default) {name : String} {f : FieldDecl}
    (h : (declared own).get? name = some f) : P name f.default := by
  have step : ∀ (l : List (String × FieldDecl)) (t : Table FieldDecl),
      (∀ f ∈ l, P f.1 f.2.default) → (∀ n f, t.get? n = some f → P n f.default) → ∀ n f,
        (l.foldl (fun t d => t.insert d.1 (((t.get? d.1).map d.2.after).getD d.2)) t).get? n =
          some f → P n f.default := by
    intro l
    induction l with
    | nil => exact fun t _ ht => ht
    | cons d rest ih =>
      intro t hl ht
      refine ih _ (fun f hf => hl f (.tail _ hf)) fun n f hf => ?_
      rw [Entries.get?_insert] at hf
      split at hf
      · next hn =>
        subst hn
        obtain rfl := Option.some.inj hf
        cases hg : t.get? d.1 with
        | none => exact hl d (.head _)
        | some g =>
          change P d.1 (d.2.default.orElse g.default)
          rw [FieldDefault.orElse_eq]
          split
          · exact ht _ _ hg
          · exact hl d (.head _)
      · exact ht n f hf
  exact step own .empty hown (fun n f hf => by cases hf) name f h

variable {d : Definition} (hd : d.IsPlain)
include hd

theorem IsPlain.own_get?_of_isFree {name : String} (h : Attribute.isFree name = true) :
    d.own.get? name = none := by
  cases hf : d.own.get? name with
  | none => rfl
  | some f =>
    have := declared_of_get? (P := fun n _ => Attribute.isFree n = false)
      (fun f hf => (hd f hf).1) hf
    rw [h] at this
    cases this

theorem IsPlain.default?_of_isFree {name : String} (h : Attribute.isFree name = true) :
    d.default? name = none := by
  rw [default?, hd.own_get?_of_isFree h]
  rfl

theorem IsPlain.slots_eq : d.slots = [] := by
  have h : d.default? slotsName = none := hd.default?_of_isFree (by decide)
  rw [slots, h]
  rfl

theorem IsPlain.allPrivates_size {parent : PropsClass} (hp : parent.privates.size = 0) :
    (d.allPrivates parent).size = 0 := by
  rw [Entries.size, List.length_eq_zero_iff, Entries.toList_eq_nil_iff] at hp ⊢
  intro name
  rw [allPrivates, get?_overlay, hp, Option.or_none, privatesOf, Entries.get?_filterMap]
  cases hf : d.own.get? name with
  | none => rfl
  | some f =>
    have hn : Attribute.isFree name = false :=
      declared_of_get? (P := fun n _ => Attribute.isFree n = false) (fun f hf => (hd f hf).1) hf
    simp [Attribute.isPrivate, hn]

theorem IsPlain.members_eq {parent : PropsClass} (hp : parent.privates.size = 0) :
    d.members parent = parent.members := by
  have hm : d.madeMember? parent = none := if_pos (hd.allPrivates_size hp)
  simp [members, hd.slots_eq, hm]

theorem IsPlain.substitutes_get? (name : String) : d.substitutes.get? name = none := by
  have hs : (Entries.ofList ([] : List (String × Substitute))).get? name = none := rfl
  simp only [substitutes, hd.slots_eq, List.filter_nil, List.map_nil]
  rw [get?_overlay, hs, Option.none_or, Entries.get?_filterMap, replacedOf, Entries.get?_filterMap]
  cases hr : Attribute.isReserved name with
  | true => rw [hd.own_get?_of_isFree (Attribute.isFree_of_isReserved hr)]; rfl
  | false => cases d.own.get? name <;> rfl

/-- A field is no lost slot, unless it was one before. -/
theorem IsPlain.withMember_ne_lostSlot (parent : PropsClass) {name : String} {f : FieldDecl}
    (hf : ∀ shown, f.default ≠ .lostSlot shown) (shown : String) :
    (d.withMember parent name f).default ≠ .lostSlot shown := by
  simp only [withMember, memberDefault?, hd.slots_eq, List.not_mem_nil, if_false]
  cases parent.members.lookup name with
  | none => exact hf shown
  | some m =>
    cases hm : m.default? name d.path parent.fields with
    | none => simpa [hm] using hf shown
    | some e =>
      have he : e = m.held name d.path parent.fields := by
        unfold Member.default? at hm
        split at hm
        · cases hm
        · exact (Option.some.inj hm).symm
      simpa [hm, he] using Member.held_ne_lostSlot name d.path parent.fields m shown

theorem IsPlain.allFields_ne_lostSlot {parent : PropsClass}
    (hp : ∀ name f, parent.fields.get? name = some f → ∀ shown, f.default ≠ .lostSlot shown)
    {name : String} {f : FieldDecl} (h : (d.allFields parent).get? name = some f)
    (shown : String) : f.default ≠ .lostSlot shown := by
  have hown : ∀ {n g}, d.own.get? n = some g → ∀ shown, g.default ≠ .lostSlot shown :=
    fun hg shown => declared_of_get? (P := fun _ e => e ≠ .lostSlot shown)
      (fun f hf => (hd f hf).2 shown) hg
  rw [get?_allFields] at h
  split at h
  · unfold specsField? at h
    split at h
    · next g hg =>
      obtain rfl := Option.some.inj h
      simp only [FieldDefault.orElse_eq]
      split
      · simp
      · exact hown hg shown
    · split at h
      · cases h
      · obtain rfl := Option.some.inj h
        simp
    · cases h
  · rw [Option.or_eq_some_iff] at h
    rcases h with h | ⟨_, h⟩
    · rw [get?_ownFields, Option.map_eq_some_iff] at h
      obtain ⟨g, hg, rfl⟩ := h
      rw [Option.filter_eq_some_iff] at hg
      split
      · exact hd.withMember_ne_lostSlot parent (hown hg.1) shown
      · exact hown hg.1 shown
    · rw [get?_inherited, Option.map_eq_some_iff] at h
      obtain ⟨g, hg, rfl⟩ := h
      exact hd.withMember_ne_lostSlot parent (hp _ _ hg) shown

end Definition

/-- A class with nothing in place of what reserved names mean, no private attributes,
no slots, and no field that is a lost slot. -/
structure Plain (c : PropsClass) : Prop where
  replaced : ∀ name, c.replaced.get? name = none
  privates : c.privates.size = 0
  slotless : ∀ name owner, c.members.lookup name ≠ some (.slot owner)
  unlost : ∀ name f, c.fields.get? name = some f → ∀ shown, f.default ≠ .lostSlot shown

theorem Plain.hasSlot {c : PropsClass} (h : c.Plain) (name : String) : c.hasSlot name = false := by
  rw [PropsClass.hasSlot, h.replaced]
  cases hm : c.members.lookup name with
  | none => rfl
  | some m =>
    cases m with
    | slot owner => exact absurd hm (h.slotless name owner)
    | _ => rfl

/-- **A plain definition keeps a class plain.** -/
theorem Plain.extend {parent : PropsClass} (h : parent.Plain) {d : Definition} (hd : d.IsPlain)
    (id : Nat) (options : Options) : (PropsClass.extend id options parent d).Plain where
  replaced name := by
    change (overlay parent.replaced d.substitutes).get? name = none
    rw [get?_overlay, hd.substitutes_get?, h.replaced]
    rfl
  privates := hd.allPrivates_size h.privates
  slotless name owner := by
    change (d.members parent).lookup name ≠ _
    rw [hd.members_eq h.privates]
    exact h.slotless name owner
  unlost _ _ hf := hd.allFields_ne_lostSlot h.unlost hf

theorem plain_base : base.Plain where
  replaced _ := rfl
  privates := rfl
  slotless name owner hm := by
    obtain ⟨l₁, l₂, hl, _⟩ := List.lookup_eq_some_iff.1 hm
    have hmem : (name, Member.slot owner) ∈ base.members := by rw [hl]; simp
    simp [base, Member.ofEveryClass] at hmem
  unlost name f hf shown := by
    change (Entries.empty.insert _ _).get? _ = _ at hf
    rw [Entries.get?_insert] at hf
    split at hf
    · obtain rfl := Option.some.inj hf
      simp
    · cases hf

/-- The definition that the class of a processor is made by. -/
def processorDefinition (p : Processor) : Definition :=
  ⟨p.className, p.home, some p.specs, p.specs.map Processor.declared⟩

theorem isPlain_processorDefinition (p : Processor) : (processorDefinition p).IsPlain := by
  have hfree : ∀ s ∈ p.specs, Attribute.isFree s.name = false := by cases p <;> decide
  intro f hf
  obtain ⟨s, hs, rfl⟩ := List.mem_map.1 hf
  exact ⟨hfree s hs, fun _ h => by cases h⟩

theorem plain_processor (p : Processor) : p.cls.Plain := by
  have h := plain_base.extend (isPlain_processorDefinition p) p.classId base.options
  refine ⟨h.replaced, h.privates, fun name owner hm => ?_, h.unlost⟩
  change (p.ownMembers ++ _).lookup name = _ at hm
  rw [List.lookup_append, Option.or_eq_some_iff] at hm
  rcases hm with hm | ⟨_, hm⟩
  · cases p <;> simp [Processor.ownMembers, Entries.lookup_cons_eq] at hm
  · exact h.slotless name owner hm

/-- The classes that some chain of plain definitions reaches. -/
inductive Ordinary : PropsClass → Prop where
  | base : Ordinary .base
  | processor (p : Processor) : Ordinary p.cls
  | define {parent c : PropsClass} {id : Nat} {d : Definition} (h : Ordinary parent)
      (hd : d.IsPlain) (hc : PropsClass.define id parent d = .ok c) : Ordinary c

/-- **Every ordinary class is plain,** however long the chain of definitions. -/
theorem Ordinary.plain {c : PropsClass} (h : c.Ordinary) : c.Plain := by
  induction h with
  | base => exact plain_base
  | processor p => exact plain_processor p
  | @define _ _ id d _ hd hc ih =>
    obtain ⟨options, _, _, rfl, _⟩ := (define_eq_ok_iff ..).1 hc
    exact ih.extend hd id options

end PropsClass
end AuditConfig
