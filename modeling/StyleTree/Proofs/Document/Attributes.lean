import Mathlib.Data.List.Find
import StyleTree.Proofs.Document.Elements
import StyleTree.Proofs.Text.Split

/-!
# Attributes as a finite map

An attribute is looked up by its namespace and local name, which make its key, or by the name that
it is written with. The list of an element holds every key once, and since a qualifier is written
for a namespace only, whoever looks for a name that is not there finds no key in its way either. So
writing by either name and reading by either name agree.
-/

namespace StyleTree

/-! ## Names -/

namespace Name

/-- The key of an attribute: its namespace and local name. -/
def key (n : Name) : String × String :=
  (n.ns, n.localName)

/-- A qualifier is written for a namespace only, and a colon ends it. -/
structure WellQualified (n : Name) : Prop where
  ns_ne : n.qualifier.isSome = true → n.ns ≠ Namespace.none
  no_colon : ∀ q, n.qualifier = some q → ':' ∉ q.toList

theorem wellQualified_plain (s : String) : (plain s).WellQualified :=
  ⟨nofun, nofun⟩

theorem no_colon_of_split {s q : String} (h : (split s).1 = some q) :
    ':' ∉ q.toList ∧ s = q ++ ":" ++ (split s).2 := by
  unfold split at h ⊢
  cases hcut : cutAt? (· == ':') s.toList with
  | none =>
    rw [hcut] at h
    cases h
  | some parts =>
    obtain ⟨l, r⟩ := parts
    rw [hcut] at h
    cases h
    obtain ⟨x, hs, hx, hl⟩ := cutAt?_eq_some hcut
    constructor
    · rw [String.toList_ofList]
      intro hmem
      simpa using hl ':' hmem
    · obtain rfl := beq_iff_eq.mp hx
      rw [← String.toList_inj]
      simpa using hs

theorem split_append {q : String} (hq : ':' ∉ q.toList) (l : String) :
    split (q ++ ":" ++ l) = (some q, l) := by
  have hl : ∀ c ∈ q.toList, (c == ':') = false := by
    intro c hc
    rw [beq_eq_false_iff_ne]
    rintro rfl
    exact hq hc
  have hcut := cutAt?_append hl (beq_self_eq_true ':') l.toList
  simp [split, hcut]

theorem ofQualified_eq_ok {ns text : String} {name : Name} (h : ofQualified ns text = .ok name) :
    name.WellQualified ∧ name.key = (ns, (split text).2) := by
  unfold ofQualified at h
  dsimp only at h
  split at h
  · cases h
  split at h
  · cases h
  next hns =>
  split at h
  · cases h
  split at h
  · cases h
  · cases h
    refine ⟨⟨?_, fun q hq => (no_colon_of_split hq).1⟩, rfl⟩
    simpa using hns

end Name

namespace Element

variable {a b : Attribute} {text : String} {as bs : List Attribute} {p : Attribute → Bool}
  {name changed : Name} {value : String}

/-- To cut the text at its first colon is to put the name together. -/
theorem isWritten_iff (h : a.name.WellQualified) :
    isWritten a text = true ↔ a.name.qualified = text := by
  unfold isWritten Name.qualified
  cases hq : a.name.qualifier with
  | none => exact beq_iff_eq
  | some q =>
    dsimp only [Option.elim]
    constructor
    · intro hwritten
      split at hwritten
      next p l hsplit =>
        obtain ⟨hqp, hl⟩ := (Bool.and_eq_true _ _).mp hwritten
        rw [beq_iff_eq] at hqp hl
        have := (Name.no_colon_of_split (congrArg Prod.fst hsplit)).2
        rw [this, hsplit, hqp, hl]
      · cases hwritten
    · rintro rfl
      rw [Name.split_append (h.no_colon q hq)]
      simp

/-! ## Lists of attributes -/

/-- The attribute is the one of the key. -/
def hasKey (k : String × String) (a : Attribute) : Bool :=
  a.name.ns == k.1 && a.name.localName == k.2

theorem hasKey_iff {k : String × String} : hasKey k a = true ↔ a.name.key = k := by
  rw [hasKey, Bool.and_eq_true, beq_iff_eq, beq_iff_eq, Name.key, Prod.ext_iff]

/-- The list has every key once. -/
structure Keyed (as : List Attribute) : Prop where
  distinct : as.Pairwise fun a b => a.name.key ≠ b.name.key
  wellQualified : ∀ a ∈ as, a.name.WellQualified

/-- A name that is new to the list is put in if no attribute with its key is found. -/
theorem map_name_putAttr (p : Attribute → Bool) (name : Name) (value : String)
    (as : List Attribute) : (putAttr p name value as).1.map (·.name) =
      as.map (·.name) ++ if as.any p then [] else [name] := by
  induction as with
  | nil => rfl
  | cons a as ih =>
    unfold putAttr
    split
    next ha => simp [ha]
    next ha => simp [ha, ih]

theorem mem_putAttr (p : Attribute → Bool) (name : Name) (value : String) (as : List Attribute) :
    ⟨(putAttr p name value as).2, value⟩ ∈ (putAttr p name value as).1 := by
  induction as with
  | nil => exact List.mem_singleton_self _
  | cons a as ih =>
    unfold putAttr
    split
    · exact List.mem_cons_self
    · exact List.mem_cons_of_mem a ih

/-- What is looked for by its name is found where it was put. -/
theorem find?_putAttr (hp : ∀ a b : Attribute, a.name = b.name → p a = p b)
    (hnew : p ⟨name, value⟩ = true) (as : List Attribute) :
    (putAttr p name value as).1.find? p = some ⟨(putAttr p name value as).2, value⟩ := by
  induction as with
  | nil => exact List.find?_cons_of_pos hnew
  | cons a as ih =>
    unfold putAttr
    split
    next ha => exact List.find?_cons_of_pos ((hp ⟨a.name, value⟩ a rfl).trans ha)
    next ha => rwa [List.find?_cons_of_neg ha]

/-- The name that is set is that of the first attribute that is found, or the new one. -/
theorem putAttr_snd (p : Attribute → Bool) (name : Name) (value : String) (as : List Attribute) :
    (putAttr p name value as).2 = (as.find? p).elim name (·.name) := by
  induction as with
  | nil => rfl
  | cons a as ih =>
    unfold putAttr
    split
    next ha => rw [List.find?_cons_of_pos ha]; rfl
    next ha => rwa [List.find?_cons_of_neg ha]

theorem key_putAttr (name : Name) (value : String) (as : List Attribute) :
    (putAttr (hasKey name.key) name value as).2.key = name.key := by
  rw [putAttr_snd]
  cases hfind : as.find? (hasKey name.key) with
  | none => rfl
  | some a => exact hasKey_iff.mp (List.find?_some hfind)

theorem filter_putAttr (keep : Attribute → Bool)
    (hkeep : ∀ a : Attribute, a.name = (putAttr p name value as).2 → keep a = false) :
    (putAttr p name value as).1.filter keep = as.filter keep := by
  induction as with
  | nil => exact List.filter_cons_of_neg (by simp [hkeep ⟨name, value⟩ rfl])
  | cons a as ih =>
    unfold putAttr at hkeep ⊢
    split at hkeep
    next ha =>
      rw [if_pos ha]
      simp [hkeep a rfl, hkeep ⟨a.name, value⟩ rfl]
    next ha =>
      rw [if_neg ha]
      simp only [List.filter_cons, ih hkeep]

theorem eraseAttr?_eq (p : Attribute → Bool) (as : List Attribute) :
    eraseAttr? p as = (as.find? p).map fun a => (as.eraseP p, a.name) := by
  induction as with
  | nil => rfl
  | cons a as ih =>
    rw [eraseAttr?, List.find?_cons, List.eraseP_cons]
    cases p a with
    | true => rfl
    | false =>
      simp only [Bool.false_eq_true, if_false, ih, Option.map_map, cond_false]
      rfl

theorem attributes_eraseFirst (p : Attribute → Bool) (e : Element) :
    (e.eraseFirst p).attributes = e.attributes.eraseP p := by
  unfold eraseFirst
  rw [eraseAttr?_eq]
  cases hfind : e.attributes.find? p with
  | none =>
    have := List.find?_eq_none.mp hfind
    exact (List.eraseP_of_forall_not this).symm
  | some a => rfl

theorem filter_eraseFirst {e : Element} (keep : Attribute → Bool)
    (hkeep : ∀ erased, eraseAttr? p e.attributes = some erased →
      ∀ a : Attribute, a.name = erased.2 → keep a = false) :
    (e.eraseFirst p).attributes.filter keep = e.attributes.filter keep := by
  rw [attributes_eraseFirst]
  rw [eraseAttr?_eq] at hkeep
  rcases List.eraseP_eq_iff.mp (Eq.refl (e.attributes.eraseP p)) with ⟨-, he⟩ | hsome
  · rw [← he]
  · obtain ⟨a, before, after, hbefore, ha, he, herase⟩ := hsome
    have hfind : e.attributes.find? p = some a := by
      rw [List.find?_eq_some_iff_append]
      exact ⟨ha, before, after, he, by simpa using hbefore⟩
    rw [hfind] at hkeep
    have := hkeep _ rfl a rfl
    rw [herase, he]
    simp [this]

namespace Keyed

theorem nil : Keyed [] :=
  ⟨.nil, nofun⟩

theorem iff_names : Keyed as ↔ (as.map (·.name)).Pairwise (fun a b => a.key ≠ b.key) ∧
    ∀ name ∈ as.map (·.name), name.WellQualified := by
  rw [List.pairwise_map, List.forall_mem_map]
  exact ⟨fun h => ⟨h.distinct, h.wellQualified⟩, fun h => ⟨h.1, h.2⟩⟩

theorem put (h : Keyed as) (hname : name.WellQualified)
    (hp : ∀ a ∈ as, a.name.key = name.key → p a = true) :
    Keyed (putAttr p name value as).1 := by
  rw [iff_names, map_name_putAttr]
  obtain ⟨hdistinct, hwell⟩ := iff_names.mp h
  split
  · rw [List.append_nil]
    exact ⟨hdistinct, hwell⟩
  next hnone =>
    constructor
    · refine List.pairwise_append.mpr ⟨hdistinct, List.pairwise_singleton _ _, ?_⟩
      rintro old hold new hnew hkey
      obtain rfl := List.mem_singleton.mp hnew
      obtain ⟨a, ha, rfl⟩ := List.mem_map.mp hold
      exact hnone (List.any_eq_true.mpr ⟨a, ha, hp a ha hkey⟩)
    · intro new hnew
      rcases List.mem_append.mp hnew with hold | hnew
      · exact hwell new hold
      · exact List.mem_singleton.mp hnew ▸ hname

theorem sublist (h : Keyed as) (hsub : bs.Sublist as) : Keyed bs where
  distinct := h.distinct.sublist hsub
  wellQualified a ha := h.wellQualified a (hsub.subset ha)

/-- An attribute is the one that is found by its key. -/
theorem find?_eq (h : Keyed as) (ha : a ∈ as) : as.find? (hasKey a.name.key) = some a := by
  obtain ⟨before, after, rfl⟩ := List.append_of_mem ha
  rw [List.find?_eq_some_iff_append]
  refine ⟨hasKey_iff.mpr rfl, before, after, rfl, fun b hb => ?_⟩
  have hne := (List.pairwise_append.mp h.distinct).2.2 b hb a List.mem_cons_self
  simpa [← Bool.not_eq_true, hasKey_iff] using hne

/-- Once the attribute of a key is gone, there is none. -/
theorem find?_eraseP (h : Keyed as) (k : String × String) :
    (as.eraseP (hasKey k)).find? (hasKey k) = none := by
  rw [List.find?_eq_none]
  rcases List.eraseP_eq_iff.mp (Eq.refl (as.eraseP (hasKey k))) with ⟨hnone, he⟩ | hsome
  · rwa [← he]
  · obtain ⟨a, before, after, -, ha, he, herase⟩ := hsome
    intro b hb hkey
    have hdistinct := h.distinct
    rw [he, List.pairwise_middle Ne.symm, List.pairwise_cons] at hdistinct
    refine hdistinct.1 b (herase ▸ hb) ?_
    rw [hasKey_iff.mp ha, hasKey_iff.mp hkey]

end Keyed

end Element

/-! ## What operations make of attributes -/

namespace Name

/-- What is in no namespace is written as its local name. -/
theorem WellQualified.qualified_of_plain {n : Name} (h : n.WellQualified) {s : String}
    (hkey : n.key = (plain s).key) : n.qualified = s := by
  obtain ⟨hns, hlocal⟩ := Prod.ext_iff.mp hkey
  have hplain : n.qualifier = none := by
    rw [← Option.not_isSome_iff_eq_none]
    exact fun hsome => h.ns_ne hsome hns
  rw [qualified, hplain]
  exact hlocal

end Name

namespace Operation

open Element (Keyed)

theorem change_setAttributeNs {n : NodeId} {ns : Option String} {qualified value : String}
    {name : Name} (html : Bool)
    (hname : Name.ofQualified (ns.getD Namespace.none) qualified = .ok name) :
    (setAttributeNs n ns qualified value).change html = Element.setNamed name value := by
  simp only [change, hname]

/-- Elements whose attributes have every key once keep them so. -/
theorem keyed_change (o : Operation) (html : Bool) {e : Element} (h : Keyed e.attributes) :
    Keyed (o.change html e).attributes := by
  have herase (p : Attribute → Bool) : Keyed (e.eraseFirst p).attributes := by
    rw [Element.attributes_eraseFirst]
    exact h.sublist List.eraseP_sublist
  cases o with
  | setAttribute n name value =>
    refine h.put (Name.wellQualified_plain _) fun a ha hkey => ?_
    exact beq_iff_eq.mpr ((h.wellQualified a ha).qualified_of_plain hkey)
  | setAttributeNs n ns qualified value =>
    cases hname : Name.ofQualified (ns.getD Namespace.none) qualified with
    | error =>
      simp only [change, hname]
      exact h
    | ok name =>
      rw [change_setAttributeNs html hname]
      exact h.put (Name.ofQualified_eq_ok hname).1 fun a _ => Element.hasKey_iff.mpr
  | removeAttribute n name => exact herase _
  | removeAttributeNs n ns localName => exact herase _
  | _ => exact h

end Operation

namespace Document

variable {d : Document} {o : Operation} {n : NodeId} {e : Element}

open Element (Keyed)

theorem run_keyed (doctype : Option String) (o : Options) (os : List Operation)
    (he : ((create doctype o).run os).page.element? n = some e) : Keyed e.attributes :=
  run_element_induction (P := fun e => Keyed e.attributes) (fun _ => .nil)
    (fun o html _ => o.keyed_change html) doctype o os he

/-- The attributes whose names the operation neither sets nor removes are kept, in their order. -/
theorem filter_perform (h : d.page.tree.Sound) (he : d.page.element? n = some e)
    (keep : Attribute → Bool)
    (hkeep : d.accepts o = true → ∀ name, o.changedAttribute? d.page = some (n, name) →
      ∀ a : Attribute, a.name = name → keep a = false) :
    ∃ e', (d.perform o).page.element? n = some e' ∧
      e'.attributes.filter keep = e.attributes.filter keep := by
  refine ⟨_, element?_perform h he, ?_⟩
  split
  case isFalse => rfl
  next hcarried =>
  obtain ⟨ho, hn⟩ := hcarried
  have hkeep := hkeep ho
  cases o with
  | setAttribute m name value =>
    obtain rfl := Option.some.inj hn
    refine Element.filter_putAttr keep (hkeep _ ?_)
    simp [Operation.changedAttribute?, he]
  | setAttributeNs m ns qualified value =>
    obtain rfl := Option.some.inj hn
    cases hname : Name.ofQualified (ns.getD Namespace.none) qualified with
    | error => simp only [Operation.change, hname, id]
    | ok name =>
      rw [Operation.change_setAttributeNs _ hname]
      refine Element.filter_putAttr keep (hkeep _ ?_)
      simp [Operation.changedAttribute?, he, hname, Except.toOption]
  | removeAttribute m name =>
    obtain rfl := Option.some.inj hn
    refine Element.filter_eraseFirst keep fun erased herase => hkeep _ ?_
    simp [Operation.changedAttribute?, he, herase]
  | removeAttributeNs m ns localName =>
    obtain rfl := Option.some.inj hn
    refine Element.filter_eraseFirst keep fun erased herase => hkeep _ ?_
    simp [Operation.changedAttribute?, he, herase]
  | _ => rfl

/-- One of the operations is carried out and sets or removes the attribute of the key. -/
def Touches (d : Document) (os : List Operation) (n : NodeId) (k : String × String) : Prop :=
  ∃ before o after name, os = before ++ o :: after ∧ (d.run before).accepts o = true ∧
    o.changedAttribute? (d.run before).page = some (n, name) ∧ name.key = k

theorem Touches.head {os : List Operation} {name : Name} (ho : d.accepts o = true)
    (hname : o.changedAttribute? d.page = some (n, name)) : d.Touches (o :: os) n name.key :=
  ⟨[], o, os, name, rfl, ho, hname, rfl⟩

theorem Touches.of_singleton {k : String × String} (h : d.Touches [o] n k) :
    ∃ name, o.changedAttribute? d.page = some (n, name) ∧ name.key = k := by
  obtain ⟨before, o', after, name, hos, -, hname, hk⟩ := h
  cases before with
  | nil =>
    obtain ⟨rfl, -⟩ := List.cons.inj hos
    exact ⟨name, hname, hk⟩
  | cons o before => simp at hos

theorem Touches.tail {os : List Operation} {k : String × String}
    (h : (d.perform o).Touches os n k) : d.Touches (o :: os) n k := by
  obtain ⟨before, o', after, name, rfl, ho, hname, hk⟩ := h
  exact ⟨o :: before, o', after, name, rfl, ho, hname, hk⟩

theorem filter_run (h : d.page.tree.Valid) (he : d.page.element? n = some e) (os : List Operation)
    (keep : String × String → Bool) (hkeep : ∀ k, d.Touches os n k → keep k = false) :
    ∃ e', (d.run os).page.element? n = some e' ∧
      (e'.attributes.filter fun a => keep a.name.key) =
        e.attributes.filter fun a => keep a.name.key := by
  induction os generalizing d e with
  | nil => exact ⟨e, he, rfl⟩
  | cons o os ih =>
    obtain ⟨mid, hmid, hfirst⟩ := filter_perform (o := o) h.toSound he (fun a => keep a.name.key)
      fun ho name hname a ha => ha ▸ hkeep _ (.head ho hname)
    obtain ⟨last, hlast, hrest⟩ := ih (perform_valid h o) hmid fun k hk => hkeep k hk.tail
    exact ⟨last, hlast, hrest.trans hfirst⟩

end Document

/-! ## Reading what was written -/

/-- An element may be told to remove an attribute that it does not have. -/
theorem Edit.exists_eraseAttribute_run {d : Document} {n : NodeId} {e : Element}
    (he : d.page.tree.data? n = some (.element e)) (p : Attribute → Bool) :
    ∃ d', Edit.eraseAttribute n p d = .ok () d' := by
  unfold Edit.eraseAttribute
  rw [bind_run (element_run he)]
  cases Element.eraseAttr? p e.attributes with
  | none => exact ⟨d, rfl⟩
  | some erased => exact ⟨_, rfl⟩

/-- The key of the attribute that is written with the text, or that a new one is to have. -/
def Element.keyOf (text : String) (e : Element) : String × String :=
  (e.attributes.find? (·.name.qualified == text)).elim (Name.plain text).key (·.name.key)

namespace Page

variable {p : Page} {n : NodeId} {e : Element}

/-- The value of the attribute of the key. -/
def attrAt? (p : Page) (n : NodeId) (k : String × String) : Option String :=
  (p.element? n).bind (·.attrIn? k.1 k.2)

/-- The value of the attribute that is written with the text. -/
def writtenValue? (p : Page) (n : NodeId) (text : String) : Option String :=
  ((p.element? n).bind (·.written? text)).map (·.value)

/-- The attributes of `q` read as those of `p`, but that of the key, which has the value. -/
structure SetsAttr (p q : Page) (n : NodeId) (k : String × String) (value : Option String) :
    Prop where
  attrAt?_self : q.attrAt? n k = value
  attrAt?_other : ∀ m l, (m, l) ≠ (n, k) → q.attrAt? m l = p.attrAt? m l

theorem attrAt?_eq (he : p.element? n = some e) (k : String × String) :
    p.attrAt? n k = (e.attributes.find? (Element.hasKey k)).map (·.value) := by
  rw [attrAt?, he]
  rfl

end Page

namespace Document

variable {d : Document} {o : Operation} {n : NodeId} {e : Element} {ns : Option String}
  {value : String}

open Element (Keyed hasKey)

/-- Every key reads as before, but that of the attribute that the operation sets or removes. -/
theorem attrAt?_perform (h : d.page.tree.Sound) (k : String × String)
    (hk : ∀ name, o.changedAttribute? d.page = some (n, name) → name.key ≠ k) :
    (d.perform o).page.attrAt? n k = d.page.attrAt? n k := by
  cases he : d.page.element? n with
  | none =>
    have hold : d.page.attrAt? n k = none := by rw [Page.attrAt?, he, Option.bind_none]
    rw [hold]
    rcases element?_perform_made (o := o) h he with hnew | ⟨name, hnew⟩
    · rw [Page.attrAt?, hnew, Option.bind_none]
    · exact Page.attrAt?_eq hnew k
  | some e =>
    obtain ⟨e', he', hfilter⟩ := filter_perform (o := o) h he (hasKey k) fun _ name hname a ha => by
      rw [← Bool.not_eq_true, Element.hasKey_iff, ha]
      exact hk name hname
    rw [Page.attrAt?_eq he', Page.attrAt?_eq he, ← List.head?_filter, hfilter, List.head?_filter]

theorem setsAttr_perform {k : String × String} {value : Option String} (h : d.page.tree.Sound)
    (hvalue : (d.perform o).page.attrAt? n k = value)
    (hchanged : ∀ m name, o.changedAttribute? d.page = some (m, name) → m = n ∧ name.key = k) :
    d.page.SetsAttr (d.perform o).page n k value where
  attrAt?_self := hvalue
  attrAt?_other m l hne := by
    refine attrAt?_perform h l fun name hname hl => hne ?_
    obtain ⟨rfl, hkey⟩ := hchanged m name hname
    rw [← hl, hkey]

theorem setsAttr_setAttributeNs {qualified : String} (h : d.page.tree.Sound)
    (ho : d.accepts (.setAttributeNs n ns qualified value) = true) :
    d.page.SetsAttr (d.perform (.setAttributeNs n ns qualified value)).page n
      (ns.getD Namespace.none, (Name.split qualified).2) (some value) := by
  obtain ⟨name, hname⟩ : ∃ name, Name.ofQualified (ns.getD Namespace.none) qualified = .ok name :=
    perform_of_accepts (Q := fun _ => ∃ name, Name.ofQualified (ns.getD Namespace.none) qualified =
      .ok name) (.silent (.nameOf fun name hname => .putAttribute fun _ _ => ⟨name, hname⟩)) ho
  obtain ⟨e, he, hnew⟩ := element?_perform_carried h ho rfl
  rw [Operation.change_setAttributeNs _ hname] at hnew
  rw [← (Name.ofQualified_eq_ok hname).2]
  apply setsAttr_perform h
  · have hsame : ∀ a b : Attribute, a.name = b.name → hasKey name.key a = hasKey name.key b :=
      fun a b hab => by rw [hasKey, hab, hasKey]
    have hfound : hasKey name.key ⟨name, value⟩ = true := Element.hasKey_iff.mpr rfl
    rw [Page.attrAt?_eq hnew]
    exact congrArg (Option.map (·.value)) (Element.find?_putAttr hsame hfound e.attributes)
  · intro m changed hchanged
    simp only [Operation.changedAttribute?, hname, Except.toOption, Option.bind_some, he,
      Option.map_some, Option.some.injEq, Prod.mk.injEq] at hchanged
    obtain ⟨rfl, rfl⟩ := hchanged
    exact ⟨rfl, Element.key_putAttr name value e.attributes⟩

theorem setsAttr_removeAttributeNs {localName : String} (h : d.page.tree.Sound)
    (he : d.page.element? n = some e) (hkeyed : Keyed e.attributes) :
    d.page.SetsAttr (d.perform (.removeAttributeNs n ns localName)).page n
      (ns.getD Namespace.none, localName) none := by
  have ho : d.accepts (.removeAttributeNs n ns localName) = true := by
    obtain ⟨d', hrun⟩ := Edit.exists_eraseAttribute_run (Tree.data?_of_element? he)
      fun a => a.name.ns == ns.getD Namespace.none && a.name.localName == localName
    exact accepts_of_run (Edit.silent_run hrun)
  have hnew := element?_perform (o := .removeAttributeNs n ns localName) h he
  rw [if_pos ⟨ho, rfl⟩] at hnew
  let k := (ns.getD Namespace.none, localName)
  apply setsAttr_perform h
  · rw [Page.attrAt?_eq hnew]
    show ((e.eraseFirst (hasKey k)).attributes.find? (hasKey k)).map (·.value) = none
    rw [Element.attributes_eraseFirst, hkeyed.find?_eraseP, Option.map_none]
  · intro m changed hchanged
    simp only [Operation.changedAttribute?, he, Option.bind_some, Option.map_eq_some_iff,
      Prod.mk.injEq] at hchanged
    obtain ⟨erased, herase, rfl, rfl⟩ := hchanged
    change Element.eraseAttr? (hasKey k) e.attributes = some erased at herase
    rw [Element.eraseAttr?_eq] at herase
    obtain ⟨a, ha, rfl⟩ := Option.map_eq_some_iff.mp herase
    exact ⟨rfl, Element.hasKey_iff.mp (List.find?_some ha)⟩

theorem setsAttr_setAttribute {name : String} (h : d.page.tree.Sound)
    (he : d.page.element? n = some e) (hkeyed : Keyed e.attributes)
    (ho : d.accepts (.setAttribute n name value) = true) :
    let text := if d.page.isHtmlElement n then Ascii.lower name else name
    let q := (d.perform (.setAttribute n name value)).page
    q.writtenValue? n text = some value ∧
      d.page.SetsAttr q n (e.keyOf text) (some value) := by
  intro text q
  have hnew := element?_perform (o := .setAttribute n name value) h he
  rw [if_pos ⟨ho, rfl⟩] at hnew
  let put := Element.putAttr (·.name.qualified == text) (.plain text) value e.attributes
  have hkeyed' : Keyed put.1 := Operation.keyed_change (.setAttribute n name value) _ hkeyed
  have hkey : put.2.key = e.keyOf text := by
    rw [Element.putAttr_snd, Element.keyOf]
    cases e.attributes.find? (·.name.qualified == text) <;> rfl
  constructor
  · have hfind : put.1.find? (·.name.qualified == text) = some ⟨put.2, value⟩ :=
      Element.find?_putAttr (fun a b hab => by rw [hab]) (beq_self_eq_true text) e.attributes
    have hwritten : put.1.find? (Element.isWritten · text) = some ⟨put.2, value⟩ := by
      rw [← hfind]
      refine List.find?_congr fun a ha => ?_
      rw [Bool.eq_iff_iff, Element.isWritten_iff (hkeyed'.wellQualified a ha), beq_iff_eq]
    rw [Page.writtenValue?, hnew, Option.bind_some]
    show Option.map _ (Element.written? { e with attributes := put.1 } text) = _
    rw [Element.written?, hwritten]
    rfl
  · apply setsAttr_perform h
    · have hfind := hkeyed'.find?_eq
        (Element.mem_putAttr (·.name.qualified == text) (.plain text) value e.attributes)
      rw [Page.attrAt?_eq hnew, ← hkey]
      exact congrArg (Option.map (·.value)) hfind
    · intro m changed hchanged
      simp only [Operation.changedAttribute?, he, Option.map_some, Option.some.injEq,
        Prod.mk.injEq] at hchanged
      obtain ⟨rfl, rfl⟩ := hchanged
      exact ⟨rfl, hkey⟩

/-- After any operations, the attributes of an element have different keys, and only those in a
namespace are written with a qualifier. To set an attribute by its key sets that key and leaves all
other ones, and to remove it likewise. To set it by the name that it is written with sets what is
then read by that name, and it sets the key of the first attribute that was written so, or else the
name itself in no namespace, and leaves all other keys. Whatever further operations do, the
attributes whose keys they never touch stay in the same order. -/
theorem attributes_run (doctype : Option String) (options : Options) (os : List Operation) :
    let d := (create doctype options).run os
    (∀ n e, d.page.element? n = some e →
      e.attributes.Pairwise (fun a b => a.name.key ≠ b.name.key) ∧
        ∀ a ∈ e.attributes, a.name.qualifier.isSome = true → a.name.ns ≠ Namespace.none) ∧
      (∀ n ns qualified value,
        let o := Operation.setAttributeNs n ns qualified value
        d.accepts o = true → d.page.SetsAttr (d.perform o).page n
          (ns.getD Namespace.none, (Name.split qualified).2) (some value)) ∧
      (∀ n ns localName, d.page.isElement n = true →
        d.page.SetsAttr (d.perform (.removeAttributeNs n ns localName)).page n
          (ns.getD Namespace.none, localName) none) ∧
      (∀ n name value,
        let o := Operation.setAttribute n name value
        let text := if d.page.isHtmlElement n then Ascii.lower name else name
        d.accepts o = true → ∃ e, d.page.element? n = some e ∧
          (d.perform o).page.writtenValue? n text = some value ∧
          d.page.SetsAttr (d.perform o).page n (e.keyOf text) (some value)) ∧
      ∀ n e, d.page.element? n = some e → ∀ later (keep : String × String → Bool),
        (∀ k, d.Touches later n k → keep k = false) →
          ∃ e', (d.run later).page.element? n = some e' ∧
            (e'.attributes.filter fun a => keep a.name.key) =
              e.attributes.filter fun a => keep a.name.key := by
  intro d
  have hvalid : d.page.tree.Valid := run_valid doctype options os
  have hkeyed : ∀ {n e}, d.page.element? n = some e → Keyed e.attributes :=
    run_keyed doctype options os
  refine ⟨?_, ?_, ?_, ?_, ?_⟩
  · intro n e he
    exact ⟨(hkeyed he).distinct, fun a ha => ((hkeyed he).wellQualified a ha).ns_ne⟩
  · intro n ns qualified value o ho
    exact setsAttr_setAttributeNs hvalid.toSound ho
  · intro n ns localName hn
    obtain ⟨e, he⟩ := Option.isSome_iff_exists.mp hn
    exact setsAttr_removeAttributeNs hvalid.toSound he (hkeyed he)
  · intro n name value o text ho
    obtain ⟨e, he, -⟩ := element?_perform_carried hvalid.toSound ho rfl
    exact ⟨e, he, setsAttr_setAttribute hvalid.toSound he (hkeyed he) ho⟩
  · intro n e he later keep hkeep
    exact filter_run hvalid he later keep hkeep

/-- The name `P:X` is put in lower case and finds the attribute that has a qualifier. The other two
stay around it in their order. -/
theorem attributes_run_qualified :
    let os : List Operation := [.createElement "div", .setAttribute 1 "id" "a",
      .setAttributeNs 1 (some "urn:n") "p:x" "b", .setAttribute 1 "class" "c"]
    let d := (create none .default).run os
    let x : Name := ⟨some "p", "urn:n", "x"⟩
    let e : Element := { Element.ofName ⟨none, Namespace.html, "div"⟩ with
      attributes := [⟨.plain "id", "a"⟩, ⟨x, "b"⟩, ⟨.plain "class", "c"⟩] }
    let set := Operation.setAttributeNs 1 (some "urn:n") "q:x" "d"
    let remove := Operation.removeAttributeNs 1 (some "urn:n") "x"
    let write := Operation.setAttribute 1 "P:X" "e"
    d.page.element? 1 = some e ∧ e.attributes.Pairwise (fun a b => a.name.key ≠ b.name.key) ∧
      d.accepts set = true ∧ d.page.SetsAttr (d.perform set).page 1 x.key (some "d") ∧
      d.page.isElement 1 = true ∧ d.page.SetsAttr (d.perform remove).page 1 x.key none ∧
      d.accepts write = true ∧ (d.perform write).page.writtenValue? 1 "p:x" = some "e" ∧
      d.page.SetsAttr (d.perform write).page 1 x.key (some "e") ∧
      (∀ k, d.Touches [remove] 1 k → (k != x.key) = false) ∧
      ∃ e', (d.run [remove]).page.element? 1 = some e' ∧
        (e'.attributes.filter fun a => a.name.key != x.key) =
          [⟨.plain "id", "a"⟩, ⟨.plain "class", "c"⟩] := by
  intro os d x e set remove write
  obtain ⟨hkeyed, hset, hremove, hwrite, hkeep⟩ := attributes_run none .default os
  have he : d.page.element? 1 = some e := by decide +kernel
  have hn : d.page.isElement 1 = true := by decide +kernel
  have haccepts : d.accepts set = true ∧ d.accepts write = true := by decide +kernel
  have htouches : ∀ k, d.Touches [remove] 1 k → (k != x.key) = false := by
    have hchanged : remove.changedAttribute? d.page = some (1, x) := by decide +kernel
    intro k hk
    obtain ⟨name, hname, rfl⟩ := hk.of_singleton
    have hx : x = name := congrArg Prod.snd (Option.some.inj (hchanged.symm.trans hname))
    rw [← hx]
    exact bne_self_eq_false x.key
  obtain ⟨f, hf, hvalue, hwritten⟩ := hwrite 1 "P:X" "e" haccepts.2
  obtain rfl := Option.some.inj (hf.symm.trans he)
  exact ⟨he, (hkeyed 1 e he).1, haccepts.1, hset 1 (some "urn:n") "q:x" "d" haccepts.1, hn,
    hremove 1 (some "urn:n") "x" hn, haccepts.2, hvalue, hwritten, htouches,
    hkeep 1 e he [remove] (· != x.key) htouches⟩

end Document

end StyleTree
