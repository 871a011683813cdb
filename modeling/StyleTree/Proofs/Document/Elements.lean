import StyleTree.Proofs.Document.Tree

/-!
# What becomes of elements in an operation

An operation that is carried out makes something of the one element that it is about, and leaves
all others as they are; most operations are about no element. An element that is made has no
attributes and is in no states. What an operation makes of its element is a function of the element
alone, so what holds of new elements and is kept by these functions holds of every element that
operations lead to.
-/

namespace StyleTree

namespace Element

/-! ## Changes of an element -/

/-- The first attribute that is written with the name has the value. A new one is in no
namespace. -/
def setWritten (name value : String) (e : Element) : Element :=
  { e with
    attributes := (putAttr (·.name.qualified == name) (.plain name) value e.attributes).1 }

/-- The attribute of the namespace and the local name has the value. -/
def setNamed (name : Name) (value : String) (e : Element) : Element :=
  { e with
    attributes := (putAttr (fun a => a.name.ns == name.ns && a.name.localName == name.localName)
      name value e.attributes).1 }

/-- The element without the first attribute that satisfies `p`. -/
def eraseFirst (p : Attribute → Bool) (e : Element) : Element :=
  { e with attributes := (eraseAttr? p e.attributes).elim e.attributes Prod.fst }

def addState (name : String) (e : Element) : Element :=
  { e with
    customStates := if e.customStates.contains name then e.customStates
      else e.customStates ++ [name] }

def removeState (name : String) (e : Element) : Element :=
  { e with customStates := e.customStates.filter (· != name) }

end Element

namespace Operation

/-- The element that the operation is about. -/
def target? : Operation → Option NodeId
  | setAttribute n .. | setAttributeNs n .. | removeAttribute n .. | removeAttributeNs n ..
  | setState n .. | addCustomState n .. | removeCustomState n .. | clearStates n => some n
  | _ => none

/-- What the operation makes of its element, which is one of HTML in an HTML document if `html` is
true. -/
def change (html : Bool) : Operation → Element → Element
  | setAttribute _ name value => .setWritten (if html then Ascii.lower name else name) value
  | setAttributeNs _ ns qualified value =>
    match Name.ofQualified (ns.getD Namespace.none) qualified with
    | .ok name => .setNamed name value
    | .error _ => id
  | removeAttribute _ name =>
    .eraseFirst (·.name.qualified == if html then Ascii.lower name else name)
  | removeAttributeNs _ ns localName =>
    .eraseFirst fun a => a.name.ns == ns.getD Namespace.none && a.name.localName == localName
  | setState _ flags value => fun e => { e with state := e.state.set flags value }
  | addCustomState _ name => .addState name
  | removeCustomState _ name => .removeState name
  | clearStates _ => fun e => { e with state := .empty, customStates := [] }
  | _ => id

end Operation

namespace Edit

variable {α : Type} {d d' : Document} {n : NodeId} {e : Element}

theorem element_run (he : d.page.tree.data? n = some (.element e)) :
    Edit.element n d = .ok e d := by
  unfold Edit.element
  rw [tree_bind, he]
  rfl

theorem silent_run {edit : Edit α} {a : α} (h : edit d = .ok a d') :
    silent edit d = .ok none d' := by
  simp [silent, discard, Functor.discard, Functor.mapConst, EStateM.map, bind, EStateM.bind, pure,
    EStateM.pure, h]

end Edit

theorem Tree.data?_of_element? {t : Tree} {n : NodeId} {e : Element} (h : t.element? n = some e) :
    t.data? n = some (.element e) := by
  obtain ⟨data, hdata, he⟩ := Option.bind_eq_some_iff.mp h
  cases data with
  | element f => exact Option.some.inj he ▸ hdata
  | _ => cases he

namespace Document

variable {d d' : Document} {o : Operation} {n : NodeId} {e : Element}

/-! ## Operations that are carried out -/

/-- The operation is carried out. -/
def accepts (d : Document) (o : Operation) : Bool :=
  match o.edit d with
  | .ok .. => true
  | .error .. => false

/-- The operations of the list that are carried out, in order. -/
def carriedOut (d : Document) : List Operation → List Operation
  | [] => []
  | o :: os => (if d.accepts o then [o] else []) ++ (d.perform o).carriedOut os

theorem accepts_of_run {made : Option NodeId} (h : o.edit d = .ok made d') :
    d.accepts o = true := by
  rw [accepts, h]

theorem perform_of_run {made : Option NodeId} (h : o.edit d = .ok made d') :
    d.perform o = d' := by
  rw [perform, Edit.after, h]

theorem perform_of_accepts {Q : Document → Prop} (h : o.edit.Leads Q d)
    (ho : d.accepts o = true) : Q (d.perform o) := by
  unfold accepts at ho
  unfold perform Edit.after
  unfold Edit.Leads at h
  cases hrun : o.edit d with
  | ok made d' =>
    rw [hrun] at h
    exact h
  | error err d' =>
    rw [hrun] at ho
    cases ho

theorem perform_of_refused (h : d.page.tree.Sound) (ho : d.accepts o = false) :
    d.perform o = d := by
  unfold accepts at ho
  unfold perform Edit.after
  cases hrun : o.edit d with
  | ok made d' =>
    rw [hrun] at ho
    cases ho
  | error err d' => exact (leads_course h o).refused hrun

/-! ## Elements after an operation -/

/-- What the operation makes of the elements if it is carried out. -/
structure Makes (d : Document) (o : Operation) (d' : Document) : Prop where
  /-- The operation is about an element. -/
  target : ∀ n, o.target? = some n → d.page.isElement n = true
  kept : ∀ n e, d.page.element? n = some e → d'.page.element? n =
    some (if o.target? = some n then o.change (d.page.isHtmlElement n) e else e)
  made : ∀ n, d.page.element? n = none →
    d'.page.element? n = none ∨ ∃ name, d'.page.element? n = some (.ofName name)

namespace Makes

theorem of_same (ho : o.target? = none)
    (h : ∀ n, d'.page.tree.element? n = d.page.tree.element? n) : d.Makes o d' where
  target n hn := by simp [ho] at hn
  kept n e he := by
    rw [ho, if_neg (by simp)]
    exact (h n).trans he
  made n hn := .inl ((h n).trans hn)

theorem of_tree (ho : o.target? = none) (h : d'.page.tree = d.page.tree) : d.Makes o d' :=
  .of_same ho fun _ => by rw [h]

/-- A node is made, and if it is an element, it is a bare one. -/
theorem push {data : NodeData} (ho : o.target? = none)
    (hdata : ∀ e, data.element? = some e → ∃ name, e = .ofName name) : d.Makes o (d.push data) where
  target n hn := by simp [ho] at hn
  kept n e he := by
    rw [ho, if_neg (by simp)]
    obtain ⟨_, hhas, -⟩ := Option.bind_eq_some_iff.mp he
    show (d.page.tree.push data).element? n = _
    rw [Tree.element?, Tree.data?_push_of_has (Tree.has_of_data? hhas)]
    exact he
  made n hn := by
    show (d.page.tree.push data).element? n = none ∨ ∃ name, (d.page.tree.push data).element? n = _
    rw [Tree.element?_push]
    split
    · cases he : data.element? with
      | none => exact .inl rfl
      | some e =>
        obtain ⟨name, rfl⟩ := hdata e he
        exact .inr ⟨name, rfl⟩
    · exact .inl hn

/-- The element that the operation is about becomes another one. -/
theorem edited {new : Element} (ho : o.target? = some n)
    (he : d.page.tree.data? n = some (.element e))
    (hnew : o.change (d.page.isHtmlElement n) e = new)
    (h : ∀ m, d'.page.tree.element? m = if n = m then some new else d.page.tree.element? m) :
    d.Makes o d' := by
  have he' : d.page.element? n = some e := Tree.element?_of_data? he
  constructor
  case target =>
    intro m hm
    obtain rfl := Option.some.inj (ho.symm.trans hm)
    exact Option.isSome_iff_exists.mpr ⟨e, he'⟩
  case kept =>
    intro m f hf
    refine (h m).trans ?_
    simp only [ho, Option.some.injEq]
    split
    · subst m
      obtain rfl := Option.some.inj (he'.symm.trans hf)
      rw [hnew]
    · exact hf
  case made =>
    intro m hm
    left
    refine (h m).trans ?_
    rw [if_neg]
    · exact hm
    · rintro rfl
      simp [he'] at hm

theorem withElement {new : Element} (ho : o.target? = some n)
    (he : d.page.tree.data? n = some (.element e))
    (hnew : o.change (d.page.isHtmlElement n) e = new)
    (htree : d'.page.tree = d.page.tree.setData n (.element new)) : d.Makes o d' := by
  refine .edited ho he hnew fun m => ?_
  rw [htree, Tree.element?_setData (Tree.has_of_data? he)]
  rfl

/-- The element that the operation is about is as the operation would make it. -/
theorem unedited (ho : o.target? = some n) (he : d.page.tree.data? n = some (.element e))
    (hnew : o.change (d.page.isHtmlElement n) e = e) : d.Makes o d := by
  refine .edited ho he hnew fun m => ?_
  split
  · subst m
    exact Tree.element?_of_data? he
  · rfl

end Makes

end Document

namespace Edit.Leads

variable {d : Document} {o : Operation} {n : NodeId}

open Document (Makes)

theorem makes_put {q : Attribute → Bool} {name : Name} {value : String} (ho : o.target? = some n)
    (hchange : ∀ e, o.change (d.page.isHtmlElement n) e =
      { e with attributes := (Element.putAttr q name value e.attributes).1 }) :
    (Edit.putAttribute n q name value).Leads (d.Makes o) d :=
  putAttribute fun e he => .withElement ho he (hchange e)
    (by simp [Document.withAttributes, Document.withElement])

theorem makes_erase {q : Attribute → Bool} (ho : o.target? = some n)
    (hchange : o.change (d.page.isHtmlElement n) = Element.eraseFirst q) :
    (Edit.eraseAttribute n q).Leads (d.Makes o) d := by
  refine element fun e he => ?_
  have hnew := congrFun hchange e
  unfold Element.eraseFirst at hnew
  cases herase : Element.eraseAttr? q e.attributes with
  | some erased =>
    rw [herase] at hnew
    exact modify (.withElement ho he hnew (by simp [Document.withAttributes, Document.withElement]))
  | none =>
    rw [herase] at hnew
    exact stay () (.unedited ho he hnew)

theorem makes_states {e new : Element} (ho : o.target? = some n)
    (he : d.page.tree.data? n = some (.element e))
    (hnew : o.change (d.page.isHtmlElement n) e = new) :
    (Edit.putStates n e new).Leads (d.Makes o) d := by
  unfold Edit.putStates
  split
  next => exact modify (.withElement ho he hnew rfl)
  next hsame => exact stay () (.unedited ho he (hnew.trans (not_not.mp hsame)))

end Edit.Leads

namespace Document

open Edit (Leads)

variable {d d' : Document} {o : Operation} {n : NodeId} {e : Element}

theorem leads_makes (h : d.page.tree.Sound) (o : Operation) : o.edit.Leads (d.Makes o) d := by
  cases o with
  | createElement localName =>
    refine .map (.checkName (.push (.push rfl fun e he => ?_)))
    exact ⟨_, (Option.some.inj he).symm⟩
  | createElementNs ns qualified =>
    refine .map (.nameOf fun name _ => .push (.push rfl fun e he => ?_))
    exact ⟨name, (Option.some.inj he).symm⟩
  | createText | createComment => exact .map (.push (.push rfl (by simp [NodeData.element?])))
  | createEntityReference =>
    exact .map (.checkName (.push (.push rfl (by simp [NodeData.element?]))))
  | createInstruction =>
    refine .map (.checkName ?_)
    dsimp only
    split
    · exact .refuse _
    · exact .push (.push rfl (by simp [NodeData.element?]))
  | insertBefore parent node before =>
    refine .silent (.insertBefore h (fun _ _ _ _ => .of_same rfl (by simp)) ?_)
    exact fun _ _ _ _ _ _ _ => .of_same rfl (by simp)
  | removeChild parent node => exact .silent (.removeChild fun _ => .of_same rfl (by simp))
  | setAttribute n name value =>
    exact .silent (.checkName (.get (.makes_put rfl fun _ => rfl)))
  | setAttributeNs n ns qualified value =>
    refine .silent (.nameOf fun name hname => .makes_put rfl fun e => ?_)
    simp only [Operation.change, hname]
    rfl
  | removeAttribute n name => exact .silent (.get (.makes_erase rfl rfl))
  | removeAttributeNs n ns localName => exact .silent (.makes_erase rfl rfl)
  | setText n text =>
    refine .silent (.setText fun old new hold hnew => .of_same rfl fun m => ?_)
    simp [withText, Tree.element?_setData_of_withText? hold hnew]
  | setUrl url =>
    refine .silent (.modify (.of_tree rfl ?_))
    unfold withUrl
    split <;> rfl
  | setHeader | rebuild | setCascade | setLoader => exact .silent (.modify (.of_tree rfl rfl))
  | setMedium =>
    exact .silent (.setMedium (fun _ => .of_tree rfl rfl) fun _ => .of_tree rfl rfl)
  | register => exact .silent (.register (.of_tree rfl rfl))
  | setState n flags value => exact .silent (.element fun e he => .makes_states rfl he rfl)
  | addCustomState n name => exact .silent (.element fun e he => .makes_states rfl he rfl)
  | removeCustomState n name => exact .silent (.element fun e he => .makes_states rfl he rfl)
  | clearStates n =>
    exact .silent (.element fun e he => .modify (.withElement rfl he rfl rfl))
  | selectSet name =>
    have hread : d.readSheets.2.page.tree = d.page.tree := congrArg Page.tree (page_readSheets d)
    exact .silent (.selectSet (fun _ => .of_tree rfl rfl) (fun _ _ => .of_tree rfl hread)
      fun _ _ => .of_tree rfl hread)
  | enableSet =>
    exact .silent (.enableSet (fun _ => .of_tree rfl rfl) fun _ => .of_tree rfl rfl)
  | readSheets =>
    exact .silent (.of_run rfl (.of_tree rfl (congrArg Page.tree (page_readSheets d))))
  | readStyle n q =>
    exact .silent (.of_run rfl (.of_tree rfl (congrArg Page.tree (page_readStyle d n q))))

theorem makes_perform (h : d.page.tree.Sound) (ho : d.accepts o = true) :
    d.Makes o (d.perform o) :=
  perform_of_accepts (leads_makes h o) ho

/-- A refused operation makes nothing of any element. -/
theorem element?_perform (h : d.page.tree.Sound) (he : d.page.element? n = some e) :
    (d.perform o).page.element? n = some (if d.accepts o = true ∧ o.target? = some n then
      o.change (d.page.isHtmlElement n) e else e) := by
  cases ho : d.accepts o with
  | false => simpa [perform_of_refused h ho] using he
  | true => simpa using (makes_perform h ho).kept n e he

theorem element?_perform_made (h : d.page.tree.Sound) (hn : d.page.element? n = none) :
    (d.perform o).page.element? n = none ∨
      ∃ name, (d.perform o).page.element? n = some (.ofName name) := by
  cases ho : d.accepts o with
  | false =>
    rw [perform_of_refused h ho]
    exact .inl hn
  | true => exact (makes_perform h ho).made n hn

theorem element?_perform_carried (h : d.page.tree.Sound) (ho : d.accepts o = true)
    (hn : o.target? = some n) : ∃ e, d.page.element? n = some e ∧
      (d.perform o).page.element? n = some (o.change (d.page.isHtmlElement n) e) := by
  obtain ⟨e, he⟩ := Option.isSome_iff_exists.mp ((makes_perform h ho).target n hn)
  have hperform := element?_perform (o := o) h he
  rw [if_pos ⟨ho, hn⟩] at hperform
  exact ⟨e, he, hperform⟩

/-! ## Elements after a run -/

/-- What holds of new elements, and is kept by what operations make of elements, holds of every
element after a run. -/
theorem run_element_induction {P : Element → Prop} (hmade : ∀ name, P (.ofName name))
    (hchange : ∀ o html e, P e → P (Operation.change html o e)) (doctype : Option String)
    (options : Options) (os : List Operation)
    (he : ((create doctype options).run os).page.element? n = some e) : P e := by
  induction os using List.reverseRecOn generalizing e with
  | nil => cases (element?_create doctype options n).symm.trans he
  | append_singleton os o ih =>
    have hsound := (run_valid doctype options os).toSound
    rw [run, List.foldl_append] at he
    change (((create doctype options).run os).perform o).page.element? n = _ at he
    cases hold : ((create doctype options).run os).page.element? n with
    | none =>
      rcases element?_perform_made (o := o) hsound hold with hnone | ⟨name, hname⟩
      · cases hnone.symm.trans he
      · obtain rfl := Option.some.inj (hname.symm.trans he)
        exact hmade name
    | some old =>
      obtain rfl := Option.some.inj ((element?_perform hsound hold).symm.trans he)
      split
      · exact hchange o _ old (ih hold)
      · exact ih hold

end Document

end StyleTree
