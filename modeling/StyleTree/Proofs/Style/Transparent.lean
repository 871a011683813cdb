import StyleTree.Proofs.Style.Dated

/-!
# Keeping styles shows in nothing

Of two documents that are created alike, but that one keeps styles and the other does not, and
that went through the same operations, everything is the same but what they keep of styles. Most
operations are blind to that. Reading a style is not, but it leaves the same, because a style that
is found was computed with the list of style sheets that is there.
-/

namespace StyleTree

/-! ## Steps are blind to the styles that are kept -/

theorem StyleCache.forget_bare (nodes : List NodeId) (c : StyleCache) :
    nodes.foldl forget c.bare = (nodes.foldl forget c).bare := by
  induction nodes generalizing c with
  | nil => rfl
  | cons n nodes ih => exact ih (c.forget n)

namespace Document

theorem stale_withoutStyles (d : Document) (s : Staleness) :
    d.withoutStyles.stale s = (d.stale s).withoutStyles := by
  cases s <;> rfl

theorem notify_withoutStyles (c : Change) (d : Document) (n : NodeId) :
    notify c d.withoutStyles n = (notify c d n).withoutStyles := by
  unfold notify
  rw [page_withoutStyles]
  split
  · dsimp only
    rw [← stale_withoutStyles]
    rfl
  · rfl

theorem notifyAll_withoutStyles (c : Change) (d : Document) (nodes : List NodeId) :
    d.withoutStyles.notifyAll c nodes = (d.notifyAll c nodes).withoutStyles := by
  induction nodes generalizing d with
  | nil => rfl
  | cons n nodes ih =>
    show (notify c d.withoutStyles n).notifyAll c nodes = _
    rw [notify_withoutStyles]
    exact ih (notify c d n)

theorem detach_withoutStyles (d : Document) (p n : NodeId) :
    d.withoutStyles.detach p n = (d.detach p n).withoutStyles := by
  let removed := (d.page.tree.unlink n).preorder n
  let cut (d : Document) : Document := { d.withTree (d.page.tree.unlink n) with
    cache := removed.foldl StyleCache.forget d.cache }
  have hcut : cut d.withoutStyles = (cut d).withoutStyles := by
    have hcache : removed.foldl StyleCache.forget d.withoutStyles.cache =
        (removed.foldl StyleCache.forget d.cache).bare := StyleCache.forget_bare removed d.cache
    simp only [cut, hcache]
    rfl
  show ((cut d.withoutStyles).notifyAll .removed removed).notifyAll .children [p] = _
  rw [hcut, notifyAll_withoutStyles, notifyAll_withoutStyles]
  rfl

theorem attach_withoutStyles (d : Document) (p n : NodeId) (before : Option NodeId) :
    d.withoutStyles.attach p n before = (d.attach p n before).withoutStyles := by
  show ((d.withTree _).withoutStyles.notifyAll .inserted _).notifyAll .children [p] = _
  rw [notifyAll_withoutStyles, notifyAll_withoutStyles]
  rfl

theorem withText_withoutStyles (d : Document) (n : NodeId) (data : NodeData) :
    d.withoutStyles.withText n data = (d.withText n data).withoutStyles :=
  notifyAll_withoutStyles .children (d.withTree (d.page.tree.setData n data)) _

theorem withAttributes_withoutStyles (d : Document) (n : NodeId) (e : Element)
    (as : List Attribute) (changed : Name) :
    d.withoutStyles.withAttributes n e as changed =
      (d.withAttributes n e as changed).withoutStyles :=
  notify_withoutStyles (.ofAttribute changed) (d.withElement n { e with attributes := as }) n

theorem withUrl_withoutStyles (d : Document) (url : Option Url) :
    d.withoutStyles.withUrl url = (d.withUrl url).withoutStyles := by
  unfold withUrl
  dsimp only
  rw [page_withoutStyles]
  split <;> rfl

end Document

/-! ## Edits -/

/-- The outcome without the styles that are kept. -/
def Edit.Outcome.withoutStyles {α : Type} :
    EStateM.Result DocumentError Document α → EStateM.Result DocumentError Document α
  | .ok a d => .ok a d.withoutStyles
  | .error e d => .error e d.withoutStyles

namespace Edit

variable {α β : Type}

/-- The edit does the same whatever styles are kept. -/
def Blind (e : Edit α) : Prop :=
  ∀ d, e d.withoutStyles = Outcome.withoutStyles (e d)

namespace Blind

theorem pure (a : α) : Blind (pure a) := fun _ => rfl

theorem refuse (e : DocumentError) : Blind (refuse e : Edit α) := fun _ => rfl

theorem tree : Blind tree := fun _ => rfl

theorem page : Blind page := fun _ => rfl

theorem modify {f : Document → Document}
    (h : ∀ d : Document, f d.withoutStyles = (f d).withoutStyles) : Blind (modify f : Edit Unit) :=
  fun d => congrArg (EStateM.Result.ok ()) (h d)

theorem bind {e : Edit β} {f : β → Edit α} (he : Blind e) (hf : ∀ b, Blind (f b)) :
    Blind (e >>= f) := by
  intro d
  have hfirst := he d
  show EStateM.bind e f d.withoutStyles = Outcome.withoutStyles (EStateM.bind e f d)
  unfold EStateM.bind
  rw [hfirst]
  cases e d with
  | ok b d' => exact hf b d'
  | error err d' => rfl

/-- What is looked at first does not depend on the styles that are kept. -/
theorem get {f : Document → Edit α} (h : ∀ d : Document, f d.withoutStyles = f d)
    (hf : ∀ d, Blind (f d)) : Blind (get >>= f) := by
  intro d
  show f d.withoutStyles d.withoutStyles = Outcome.withoutStyles (f d d)
  rw [h]
  exact hf d d

theorem ite {c : Prop} [Decidable c] {e e' : Edit α} (h : Blind e) (h' : Blind e') :
    Blind (if c then e else e') := by
  split
  · exact h
  · exact h'

theorem map {f : α → β} {e : Edit α} (h : Blind e) : Blind (f <$> e) := by
  intro d
  have hd := h d
  show EStateM.map f e d.withoutStyles = Outcome.withoutStyles (EStateM.map f e d)
  unfold EStateM.map
  rw [hd]
  cases e d <;> rfl

theorem silent {e : Edit α} (h : Blind e) : Blind (silent e) :=
  bind (map h) fun _ => pure none

/-! ### Checks -/

theorem checkName (name : String) : Blind (checkName name) :=
  ite (pure ()) (refuse _)

theorem nameOf (ns : Option String) (qualified : String) : Blind (nameOf ns qualified) := by
  unfold Edit.nameOf
  split
  · exact pure _
  · exact refuse _

theorem element (n : NodeId) : Blind (element n) := by
  refine bind tree fun t => ?_
  split
  · exact pure _
  · exact refuse _
  · exact refuse _

/-! ### The tree -/

theorem push (data : NodeData) : Blind (push data) :=
  bind tree fun _ => bind (modify fun _ => rfl) fun _ => pure _

theorem removeChild (p n : NodeId) : Blind (removeChild p n) := by
  refine bind tree fun t => ?_
  dsimp only
  split
  · exact refuse _
  · exact modify fun d => Document.detach_withoutStyles d p n

theorem insertBefore (p n : NodeId) (before : Option NodeId) : Blind (insertBefore p n before) := by
  refine bind tree fun t => ?_
  dsimp only
  split
  · exact refuse _
  · split
    · exact bind (removeChild _ n) fun _ => modify fun d => Document.attach_withoutStyles d p n _
    · exact modify fun d => Document.attach_withoutStyles d p n _

/-! ### Attributes and text -/

theorem putAttribute (n : NodeId) (q : Attribute → Bool) (name : Name) (value : String) :
    Blind (putAttribute n q name value) :=
  bind (element n) fun e => modify fun d => Document.withAttributes_withoutStyles d n e _ _

theorem eraseAttribute (n : NodeId) (q : Attribute → Bool) : Blind (eraseAttribute n q) := by
  refine bind (element n) fun e => ?_
  split
  · exact modify fun d => Document.withAttributes_withoutStyles d n e _ _
  · exact pure ()

theorem attributeName (n : NodeId) (name : String) : Blind (attributeName n name) :=
  bind page fun _ => pure _

theorem setText (n : NodeId) (text : String) : Blind (setText n text) := by
  refine bind tree fun t => ?_
  split
  · exact refuse _
  · split
    · exact refuse _
    · exact modify fun d => Document.withText_withoutStyles d n _

/-! ### The document, states and sets of style sheets -/

theorem setMedium (medium : String) : Blind (setMedium medium) := by
  refine get (fun _ => rfl) fun d => ?_
  exact ite (modify fun _ => rfl) (pure ())

theorem register (r : Registration) : Blind (register r) := by
  unfold Edit.register
  split
  · exact refuse _
  · refine get (fun _ => rfl) fun d => ?_
    split
    · exact refuse _
    · exact modify fun _ => rfl

theorem putStates (n : NodeId) (old new : Element) : Blind (putStates n old new) :=
  ite (modify fun _ => rfl) (pure ())

theorem sheetList : Blind sheetList := by
  intro d
  show EStateM.Result.ok d.withoutStyles.readSheets.1 d.withoutStyles.readSheets.2 = _
  rw [Document.readSheets_withoutStyles]
  rfl

theorem selectSet (name : String) : Blind (selectSet name) := by
  unfold Edit.selectSet
  split
  · exact modify fun _ => rfl
  · exact bind (map sheetList) fun _ => ite (modify fun _ => rfl) (pure ())

theorem enableSet (name : String) : Blind (enableSet name) :=
  ite (modify fun _ => rfl) (pure ())

end Blind

end Edit

namespace Operation

/-- Every operation but reading a style is blind to the styles that are kept. -/
theorem blind (o : Operation) (ho : ∀ n q, o ≠ .readStyle n q) : o.edit.Blind := by
  cases o with
  | createElement localName =>
    exact .map (.bind (.checkName _) fun _ => .bind .page fun _ => .push _)
  | createElementNs ns qualified => exact .map (.bind (.nameOf ns qualified) fun _ => .push _)
  | createText data => exact .map (.push _)
  | createComment data => exact .map (.push _)
  | createEntityReference name text => exact .map (.bind (.checkName _) fun _ => .push _)
  | createInstruction target data =>
    refine .map (.bind (.checkName _) fun _ => ?_)
    dsimp only
    split
    · exact .refuse _
    · exact .push _
  | insertBefore parent node before => exact .silent (.insertBefore parent node before)
  | removeChild parent node => exact .silent (.removeChild parent node)
  | setAttribute node name value =>
    refine .silent (.bind (.checkName _) fun _ => ?_)
    exact .bind (.attributeName node name) fun _ => .putAttribute node _ _ value
  | setAttributeNs node ns qualified value =>
    exact .silent (.bind (.nameOf ns qualified) fun _ => .putAttribute node _ _ value)
  | removeAttribute node name =>
    exact .silent (.bind (.attributeName node name) fun _ => .eraseAttribute node _)
  | removeAttributeNs node ns localName => exact .silent (.eraseAttribute node _)
  | setText node text => exact .silent (.setText node text)
  | setUrl url => exact .silent (.modify fun d => d.withUrl_withoutStyles url)
  | setHeader | rebuild | setCascade | setLoader => exact .silent (.modify fun _ => rfl)
  | setMedium medium => exact .silent (.setMedium medium)
  | register r => exact .silent (.register r)
  | setState node | addCustomState node | removeCustomState node =>
    exact .silent (.bind (.element node) fun _ => .putStates node _ _)
  | clearStates node => exact .silent (.bind (.element node) fun _ => .modify fun _ => rfl)
  | selectSet name => exact .silent (.selectSet name)
  | enableSet name => exact .silent (.enableSet name)
  | readSheets => exact .silent .sheetList
  | readStyle n q => exact absurd rfl (ho n q)

end Operation

/-! ## What operations answer -/

/-- What is seen of an operation. -/
inductive Answer where
  | refused (error : DocumentError)
  | done (created : Option NodeId)
  | sheets (list : SheetList)
  /-- The style that was read, with all that it inherits from. Which object it is does not show. -/
  | style (style : Option ComputedStyle)

/-- What is seen of an edit: the node that it made, or why it was refused. -/
def Answer.ofOutcome : EStateM.Result DocumentError Document (Option NodeId) → Answer
  | .ok created _ => .done created
  | .error e _ => .refused e

/-- What is seen of the operation on the document. -/
def Operation.answer (d : Document) : Operation → Answer
  | .readSheets => .sheets d.readSheets.1
  | .readStyle n q => .style ((d.readStyle n q).1.map (·.style))
  | o => .ofOutcome (o.edit d)

theorem Operation.answer_eq {o : Operation} (hsheets : o ≠ .readSheets)
    (hstyle : ∀ n q, o ≠ .readStyle n q) (d : Document) :
    o.answer d = .ofOutcome (o.edit d) := by
  unfold Operation.answer
  split
  · contradiction
  · exact absurd rfl (hstyle _ _)
  · rfl

namespace Document

variable {d d' : Document}

theorem perform_withoutStyles {o : Operation} (ho : ∀ n q, o ≠ .readStyle n q) :
    (d.perform o).withoutStyles = d.withoutStyles.perform o := by
  unfold perform Edit.after
  rw [o.blind ho d]
  cases o.edit d <;> rfl

/-- After reading a style, documents that differ only in the styles that they keep do so still. -/
theorem withoutStyles_readStyle_congr (h : d.Dated) (h' : d'.Dated)
    (hsame : d.withoutStyles = d'.withoutStyles) (n : NodeId) (q : Option PseudoElement) :
    (d.readStyle n q).2.withoutStyles = (d'.readStyle n q).2.withoutStyles := by
  have hpage : d.page = d'.page := (congrArg Document.page hsame :)
  cases hn : d.page.isElement n with
  | false =>
    rw [readStyle_of_not_element hn, readStyle_of_not_element (hpage ▸ hn)]
    exact hsame
  | true =>
    have hread : ∀ d : Document, d.started.readSheets.2.withoutStyles =
        d.withoutStyles.started.readSheets.2 := by
      intro d
      rw [started_withoutStyles, readSheets_withoutStyles]
    rw [h.withoutStyles_readStyle hn, h'.withoutStyles_readStyle (hpage ▸ hn), hread, hread, hsame]

theorem withoutStyles_perform_congr (h : d.Dated) (h' : d'.Dated)
    (hsame : d.withoutStyles = d'.withoutStyles) (o : Operation) :
    (d.perform o).withoutStyles = (d'.perform o).withoutStyles := by
  by_cases ho : ∀ n q, o ≠ .readStyle n q
  · rw [perform_withoutStyles ho, perform_withoutStyles ho, hsame]
  · simp only [not_forall, not_not] at ho
    obtain ⟨n, q, rfl⟩ := ho
    exact withoutStyles_readStyle_congr h h' hsame n q

/-- The style that is read is the one that is computed anew, which no style that is kept decides. -/
theorem style_readStyle_congr (hvalid : d.page.tree.Valid) (h : d.Current)
    (hvalid' : d'.page.tree.Valid) (h' : d'.Current) (hsame : d.withoutStyles = d'.withoutStyles)
    (n : NodeId) (q : Option PseudoElement) :
    (d.readStyle n q).1.map (·.style) = (d'.readStyle n q).1.map (·.style) := by
  have hpage : d.page = d'.page := (congrArg Document.page hsame :)
  cases hn : d.page.isElement n with
  | false => rw [readStyle_of_not_element hn, readStyle_of_not_element (hpage ▸ hn)]
  | true =>
    have hanew : ∀ d : Document, ∀ serial,
        d.started.styleAnew serial n q = d.withoutStyles.styleAnew serial n q := by
      intro d serial
      have hstarted : d.started.styleAnew serial n q = d.styleAnew serial n q :=
        (Reads.styles d.cache.started).styleAnew
      have hbare : d.withoutStyles.styleAnew serial n q = d.styleAnew serial n q :=
        (Reads.styles d.cache.bare).styleAnew
      rw [hstarted, hbare]
    have hserial : d.started.serial = d'.started.serial := by
      have hbare := congrArg (·.started.serial) hsame
      simp only [started_withoutStyles] at hbare
      exact hbare
    have hread := delivers_readStyle (q := q) hvalid h hn
    have hread' := delivers_readStyle (q := q) hvalid' h' (hpage ▸ hn)
    calc (d.readStyle n q).1.map (·.style)
      _ = d.withoutStyles.styleAnew d.started.serial n q := hread.style.trans (hanew d _)
      _ = d'.withoutStyles.styleAnew d'.started.serial n q := by rw [hsame, hserial]
      _ = (d'.readStyle n q).1.map (·.style) := (hread'.style.trans (hanew d' _)).symm

theorem ofOutcome_congr {o : Operation} (ho : o.edit.Blind)
    (hsame : d.withoutStyles = d'.withoutStyles) :
    Answer.ofOutcome (o.edit d) = Answer.ofOutcome (o.edit d') := by
  have hbare : ∀ d : Document,
      Answer.ofOutcome (o.edit d) = Answer.ofOutcome (o.edit d.withoutStyles) := by
    intro d
    rw [ho d]
    cases o.edit d <;> rfl
  rw [hbare d, hbare d', hsame]

/-- What is seen of an operation that reads no style does not depend on the styles that are kept. -/
theorem answer_congr (hsame : d.withoutStyles = d'.withoutStyles) {o : Operation}
    (hstyle : ∀ n q, o ≠ .readStyle n q) : o.answer d = o.answer d' := by
  by_cases hsheets : o = .readSheets
  · subst hsheets
    have hread : ∀ d : Document, d.readSheets.1 = d.withoutStyles.readSheets.1 := by
      intro d
      rw [readSheets_withoutStyles]
    show Answer.sheets _ = Answer.sheets _
    rw [hread d, hread d', hsame]
  · rw [o.answer_eq hsheets hstyle, o.answer_eq hsheets hstyle]
    exact ofOutcome_congr (o.blind hstyle) hsame

theorem withoutStyles_run (doctype : Option String) (o : Options) (os : List Operation) :
    ((create doctype { o with styleCache := true }).run os).withoutStyles =
      ((create doctype { o with styleCache := false }).run os).withoutStyles := by
  induction os using List.reverseRecOn with
  | nil => rfl
  | append_singleton os op ih =>
    simp only [run, List.foldl_append, List.foldl_cons, List.foldl_nil] at ih ⊢
    exact withoutStyles_perform_congr (run_dated doctype _ os) (run_dated doctype _ os) ih op

/-- Of two documents that are created alike, but that one keeps styles and the other does not, and
that went through the same operations, everything is the same but what they keep of styles: pages,
style sheets, what was asked of the loader, serials and whether they are clean. So is what is seen
of any operation then, and with cascades that are lawful the styles that are read. -/
theorem transparent_run (doctype : Option String) (o : Options) (os : List Operation) :
    let on := (create doctype { o with styleCache := true }).run os
    let off := (create doctype { o with styleCache := false }).run os
    on.withoutStyles = off.withoutStyles ∧
      (∀ op : Operation, (∀ n q, op ≠ .readStyle n q) → op.answer on = op.answer off) ∧
      ((∀ c, .setCascade c ∈ os → c.Lawful) → ∀ n q,
        (Operation.readStyle n q).answer on = (Operation.readStyle n q).answer off) := by
  intro on off
  have hsame : on.withoutStyles = off.withoutStyles := withoutStyles_run doctype o os
  refine ⟨hsame, fun op hstyle => answer_congr hsame hstyle, fun hc n q => ?_⟩
  obtain ⟨hvalid, hcurrent⟩ := run_current doctype { o with styleCache := true } os hc
  obtain ⟨hvalid', hcurrent'⟩ := run_current doctype { o with styleCache := false } os hc
  exact congrArg Answer.style (style_readStyle_congr hvalid hcurrent hvalid' hcurrent' hsame n q)

/-- One document keeps the style of a paragraph and the other does not. -/
theorem transparent_run_declared :
    let os : List Operation := [.setCascade .declared, .createElement "p",
      .insertBefore Tree.root 1 none, .readStyle 1 none]
    let on := (create none { Options.default with styleCache := true }).run os
    let off := (create none { Options.default with styleCache := false }).run os
    (on.cache.styles.length, off.cache.styles.length) = (1, 0) ∧
      on.withoutStyles = off.withoutStyles ∧
      (Operation.readSheets).answer on = (Operation.readSheets).answer off ∧
      (∀ c, .setCascade c ∈ os → c.Lawful) ∧
      (Operation.readStyle 1 none).answer on = (Operation.readStyle 1 none).answer off := by
  intro os on off
  have hlawful : ∀ c, .setCascade c ∈ os → c.Lawful := by
    intro c hc
    obtain rfl : c = .declared := by simpa [os] using hc
    exact Cascade.declared_lawful
  obtain ⟨hsame, hanswer, hstyle⟩ := transparent_run none .default os
  exact ⟨by decide, hsame, hanswer .readSheets nofun, hlawful, hstyle hlawful 1 none⟩

end Document

end StyleTree
