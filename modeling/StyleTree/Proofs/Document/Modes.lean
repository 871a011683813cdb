import StyleTree.Proofs.Document.Tree

/-!
# Documents in another mode

No operation looks at the mode of the page that it changes. So two documents that are created alike,
but for the mode, and that go through the same operations have the same page, but for the mode.
Styles are another matter: a cascade sees the whole page.
-/

namespace StyleTree

/-- The page in the mode. -/
def Page.inMode (m : Mode) (p : Page) : Page :=
  { p with mode := m }

namespace Page

variable {m : Mode} {p : Page}

@[simp] theorem tree_inMode : (p.inMode m).tree = p.tree := rfl

@[simp] theorem mode_inMode : (p.inMode m).mode = m := rfl

end Page

/-! ## Edits that do not look at the mode -/

namespace Edit

variable {α β : Type}

/-- Both outcomes are the same result or the same refusal, and the page of the second is that of the
first in the mode. -/
inductive Outcome.SameInMode (m : Mode) : EStateM.Result DocumentError Document α →
    EStateM.Result DocumentError Document α → Prop where
  | ok (a : α) {d d' : Document} (h : d'.page = d.page.inMode m) : SameInMode m (.ok a d) (.ok a d')
  | error (e : DocumentError) {d d' : Document} (h : d'.page = d.page.inMode m) :
    SameInMode m (.error e d) (.error e d')

/-- On pages that differ in the mode alone the edit does the same. -/
def IgnoresMode (e : Edit α) : Prop :=
  ∀ m d d', d'.page = d.page.inMode m → Outcome.SameInMode m (e d) (e d')

namespace IgnoresMode

theorem pure (a : α) : IgnoresMode (pure a) :=
  fun _ _ _ h => .ok a h

theorem refuse (e : DocumentError) : IgnoresMode (refuse e : Edit α) :=
  fun _ _ _ h => .error e h

theorem bind {e : Edit β} {f : β → Edit α} (he : IgnoresMode e) (hf : ∀ b, IgnoresMode (f b)) :
    IgnoresMode (e >>= f) := by
  intro m d d' h
  have hfirst := he m d d' h
  show Outcome.SameInMode m (EStateM.bind e f d) (EStateM.bind e f d')
  unfold EStateM.bind
  cases hd : e d with
  | ok b u =>
    rw [hd] at hfirst
    cases hd' : e d' with
    | ok b' u' =>
      rw [hd'] at hfirst
      cases hfirst with
      | ok _ hpage => exact hf b m u u' hpage
    | error => rw [hd'] at hfirst; cases hfirst
  | error err u =>
    rw [hd] at hfirst
    cases hd' : e d' with
    | ok => rw [hd'] at hfirst; cases hfirst
    | error err' u' =>
      rw [hd'] at hfirst
      cases hfirst with
      | error _ hpage => exact .error err hpage

theorem map {f : α → β} {e : Edit α} (h : IgnoresMode e) : IgnoresMode (f <$> e) := by
  rw [← bind_pure_comp]
  exact bind h fun a => pure (f a)

theorem silent {e : Edit α} (h : IgnoresMode e) : IgnoresMode (silent e) :=
  bind (map h) fun _ => pure none

theorem tree : IgnoresMode tree := by
  intro m d d' h
  show Outcome.SameInMode m (.ok d.page.tree d) (.ok d'.page.tree d')
  rw [congrArg Page.tree h, Page.tree_inMode]
  exact .ok _ h

/-- What is asked of the page does not depend on its mode. -/
theorem page {f : Page → Edit α} (hf : ∀ m p, f (p.inMode m) = f p)
    (he : ∀ p, IgnoresMode (f p)) : IgnoresMode (page >>= f) := by
  intro m d d' h
  show Outcome.SameInMode m (f d.page d) (f d'.page d')
  rw [h, hf]
  exact he d.page m d d' h

/-- The change of the document is a change of the page, whatever its mode. -/
theorem modifyPage {f : Document → Document} (change : Page → Page)
    (hf : ∀ d, (f d).page = change d.page)
    (hmode : ∀ m p, change (p.inMode m) = (change p).inMode m) :
    IgnoresMode (modify f : Edit Unit) := by
  intro m d d' h
  refine .ok () ?_
  rw [hf, hf, h, hmode]

/-- The change of the document is a change of the tree. -/
theorem modifyTree {f : Document → Document} (change : Tree → Tree)
    (hf : ∀ d, (f d).page = { d.page with tree := change d.page.tree }) :
    IgnoresMode (modify f : Edit Unit) :=
  modifyPage (fun p => { p with tree := change p.tree }) hf fun _ _ => rfl

/-! ### Checks -/

theorem checkName (name : String) : IgnoresMode (checkName name) := by
  unfold Edit.checkName
  split
  · exact pure ()
  · exact refuse _

theorem nameOf (ns : Option String) (qualified : String) : IgnoresMode (nameOf ns qualified) := by
  unfold Edit.nameOf
  split
  · exact pure _
  · exact refuse _

theorem element (n : NodeId) : IgnoresMode (element n) := by
  refine bind tree fun t => ?_
  split
  · exact pure _
  · exact refuse _
  · exact refuse _

/-! ### The tree -/

theorem push (data : NodeData) : IgnoresMode (push data) :=
  bind tree fun _ => bind (modifyTree (·.push data) fun _ => rfl) fun _ => pure _

theorem removeChild (p n : NodeId) : IgnoresMode (removeChild p n) := by
  refine bind tree fun t => ?_
  dsimp only
  split
  · exact refuse _
  · exact modifyTree (·.unlink n) fun d => by simp [Document.detach, Document.withTree]

theorem attach (p n : NodeId) (before : Option NodeId) :
    IgnoresMode (modify (·.attach p n before) : Edit Unit) :=
  modifyTree (·.link p n before) fun d => by simp [Document.attach, Document.withTree]

theorem insertBefore (p n : NodeId) (before : Option NodeId) :
    IgnoresMode (insertBefore p n before) := by
  refine bind tree fun t => ?_
  dsimp only
  split
  · exact refuse _
  · split
    · exact bind (removeChild _ n) fun _ => attach p n _
    · exact attach p n _

/-! ### Attributes, text, states and the URL -/

theorem withAttributes (n : NodeId) (e : Element) (as : List Attribute) (changed : Name) :
    IgnoresMode (modify (·.withAttributes n e as changed) : Edit Unit) :=
  modifyTree (·.setData n (.element { e with attributes := as })) fun d => by
    simp [Document.withAttributes, Document.withElement, Document.withTree]

theorem putAttribute (n : NodeId) (q : Attribute → Bool) (name : Name) (value : String) :
    IgnoresMode (putAttribute n q name value) :=
  bind (element n) fun e => withAttributes n e _ _

theorem eraseAttribute (n : NodeId) (q : Attribute → Bool) :
    IgnoresMode (eraseAttribute n q) := by
  refine bind (element n) fun e => ?_
  split
  · exact withAttributes n e _ _
  · exact pure ()

theorem attributeName (n : NodeId) (name : String) : IgnoresMode (attributeName n name) :=
  page (fun _ _ => rfl) fun _ => pure _

theorem setText (n : NodeId) (text : String) : IgnoresMode (setText n text) := by
  refine bind tree fun t => ?_
  split
  · exact refuse _
  · split
    · exact refuse _
    next new _ =>
      exact modifyTree (·.setData n new) fun d => by simp [Document.withText, Document.withTree]

theorem withStates (n : NodeId) (e : Element) :
    IgnoresMode (modify (·.withStates n e) : Edit Unit) :=
  modifyTree (·.setData n (.element e)) fun _ => rfl

theorem putStates (n : NodeId) (old new : Element) : IgnoresMode (putStates n old new) := by
  unfold Edit.putStates
  split
  · exact withStates n new
  · exact pure ()

theorem setUrl (url : Option Url) : IgnoresMode (setUrl url) := by
  refine modifyPage (fun p => { p with url }) (fun d => ?_) fun _ _ => rfl
  unfold Document.withUrl
  dsimp only
  split <;> rfl

end IgnoresMode

end Edit

/-! ## Operations -/

namespace Operation

/-- The operation changes no page, but settings or what is kept. -/
def keepsPage : Operation → Bool
  | setHeader .. | setMedium .. | register .. | rebuild | setCascade .. | setLoader ..
  | selectSet .. | enableSet .. | readSheets | readStyle .. => true
  | _ => false

theorem of_keepsPage {o : Operation} (ho : o.keepsPage = true) :
    o.isCreation = false ∧ o.isOfStates = false ∧ ∀ p, o.changedAttribute? p = none := by
  cases o <;> first | exact ⟨rfl, rfl, fun _ => rfl⟩ | cases ho

/-- An operation that may change the page does not look at the mode. -/
theorem ignoresMode {o : Operation} (ho : o.keepsPage = false) : o.edit.IgnoresMode := by
  cases o with
  | createElement localName =>
    exact .map (.bind (.checkName _) fun _ => .page (fun _ _ => rfl) fun _ => .push _)
  | createElementNs ns qualified => exact .map (.bind (.nameOf ns qualified) fun _ => .push _)
  | createText data | createComment data => exact .map (.push _)
  | createEntityReference name text => exact .map (.bind (.checkName _) fun _ => .push _)
  | createInstruction target data =>
    refine .map (.bind (.checkName _) fun _ => ?_)
    dsimp only
    split
    · exact .refuse _
    · exact .push _
  | insertBefore parent node before => exact .silent (.insertBefore parent node before)
  | removeChild parent node => exact .silent (.removeChild parent node)
  | setAttribute node name value =>
    refine .silent (.bind (.checkName _) fun _ => ?_)
    exact .bind (.attributeName node name) fun _ => .putAttribute node _ _ value
  | setAttributeNs node ns qualified value =>
    exact .silent (.bind (.nameOf ns qualified) fun _ => .putAttribute node _ _ value)
  | removeAttribute node name =>
    exact .silent (.bind (.attributeName node name) fun _ => .eraseAttribute node _)
  | removeAttributeNs node ns localName => exact .silent (.eraseAttribute node _)
  | setText node text => exact .silent (.setText node text)
  | setUrl url => exact .silent (.setUrl url)
  | setState node | addCustomState node | removeCustomState node =>
    exact .silent (.bind (.element node) fun _ => .putStates node _ _)
  | clearStates node => exact .silent (.bind (.element node) fun _ => .withStates node _)
  | setHeader | setMedium | register | rebuild | setCascade | setLoader | selectSet | enableSet
  | readSheets | readStyle => cases ho

end Operation

namespace Document

variable {d d' : Document} {m : Mode}

/-- What an operation that keeps the page can come to. -/
theorem Course.page_eq {o : Operation} (h : d.Course o d') (ho : o.keepsPage = true) :
    d'.page = d.page := by
  obtain ⟨hcreation, hstates, hattribute⟩ := Operation.of_keepsPage ho
  cases h with
  | push hkind => simp [hcreation] at hkind
  | states hkind => simp [hstates] at hkind
  | attributes hkind => simp [hattribute] at hkind
  | putIn | move | takeOut | text | url => cases ho
  | nothing | header | medium | register | rebuild | cascade | loader | selectNone
  | enableSet => rfl
  | selectUnknown | selectKnown | readSheets => exact page_readSheets d
  | readStyle n q => exact page_readStyle d n q

theorem page_perform_inMode (h : d.page.tree.Sound) (hpage : d'.page = d.page.inMode m)
    (o : Operation) : (d'.perform o).page = (d.perform o).page.inMode m := by
  cases ho : o.keepsPage with
  | true =>
    have h' : d'.page.tree.Sound := by rwa [hpage]
    rw [(perform_course h o).page_eq ho, (perform_course h' o).page_eq ho, hpage]
  | false =>
    have hsame := Operation.ignoresMode ho m d d' hpage
    unfold perform Edit.after
    cases hd : o.edit d <;> cases hd' : o.edit d' <;> rw [hd, hd'] at hsame <;> cases hsame <;>
      assumption

theorem page_run_inMode (h : d.page.tree.Valid) (hpage : d'.page = d.page.inMode m)
    (os : List Operation) : (d'.run os).page = (d.run os).page.inMode m := by
  induction os generalizing d d' with
  | nil => exact hpage
  | cons o os ih =>
    exact ih (perform_valid h o) (page_perform_inMode h.toSound hpage o)

/-- The mode that options ask for, in place of another one, makes no difference to the page but for
the mode itself. -/
theorem page_run_mode (doctype : Option String) (o : Options) (m : Mode) (os : List Operation) :
    ((create doctype { o with mode := some m }).run os).page =
      ((create doctype o).run os).page.inMode m := by
  have hnew : (create doctype { o with mode := some m }).page =
      (create doctype o).page.inMode m := rfl
  exact page_run_inMode (create_valid doctype o) hnew os

end Document

end StyleTree
