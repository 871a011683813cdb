import StyleTree.Document.Edit
import StyleTree.Proofs.Tree.Changes

/-!
# Steps

Every operation takes a document to another one by steps: it makes no step if it is refused, one if
it is carried out, and two if it moves a node, which is taken out and put in again. `Step` has a
constructor for each kind of step, with what was checked before.
-/

namespace StyleTree

/-! ## Checks -/

/-- The node `n` may be put in below `p`, before `before` or last. -/
structure CanInsert (t : Tree) (p n : NodeId) (before : Option NodeId) (parent child : NodeData) :
    Prop where
  data_parent : t.data? p = some parent
  data_child : t.data? n = some child
  holds_children : parent = .document ∨ parent.isElement = true
  not_above : t.isInclusiveAncestor n p = false
  beside : ∀ c, before = some c → t.parent? c = some p
  not_misplaced : Edit.isMisplaced parent child = false
  single : parent = .document →
    ∀ c ∈ t.children p, c ≠ n → (t.data? c).any (Edit.isSingle child) = false

theorem canInsert_of_insertionError? {t : Tree} {p n : NodeId} {before : Option NodeId}
    (h : Edit.insertionError? t p n before = none) :
    ∃ parent child, CanInsert t p n before parent child := by
  unfold Edit.insertionError? at h
  split at h
  case h_2 => cases h
  case h_1 parent child hparent hchild =>
    split at h <;> try cases h
    next hholds =>
    split at h <;> try cases h
    next habove =>
    split at h <;> try cases h
    next hbeside =>
    split at h <;> try cases h
    next hplace =>
    split at h <;> try cases h
    next hsingle =>
    refine ⟨parent, child, hparent, hchild, ?_, ?_, ?_, ?_, ?_⟩
    · simpa [Decidable.or_iff_not_imp_left] using hholds
    · simpa using habove
    · rintro c rfl
      simpa using hbeside
    · simpa using hplace
    · rintro rfl c hc hne
      simp only [beq_self_eq_true, Bool.true_and, List.any_eq_true, not_exists, not_and,
        Bool.and_eq_true, bne_iff_ne] at hsingle
      exact Bool.eq_false_iff.mpr (hsingle c hc hne)

namespace CanInsert

variable {t : Tree} {p n old : NodeId} {before : Option NodeId} {parent child : NodeData}

theorem has_child (c : CanInsert t p n before parent child) : t.has n = true :=
  Tree.has_of_data? c.data_child

theorem has_parent (c : CanInsert t p n before parent child) : t.has p = true :=
  Tree.has_of_data? c.data_parent

/-- A root that may be put in finds its place among the children. -/
theorem insertable (c : CanInsert t p n before parent child) (h : t.Sound)
    (hroot : t.parent? n = none) :
    ∃ xs ys, before = ys.head? ∧ t.Insertable p n xs ys := by
  cases before with
  | none =>
    exact ⟨t.children p, [], rfl,
      c.has_child, c.has_parent, hroot, c.not_above, by simp⟩
  | some b =>
    obtain ⟨xs, ys, he⟩ := List.append_of_mem (h.mem_children.mpr (c.beside b rfl))
    exact ⟨xs, b :: ys, rfl, c.has_child, c.has_parent, hroot, c.not_above, he⟩

/-- What may be moved may be put in once it was taken out, before what follows it if that is where
it was to go. -/
theorem unlink (c : CanInsert t p n before parent child) (h : t.Sound)
    (hold : t.parent? n = some old) :
    CanInsert (t.unlink n) p n (if before = some n then t.nextSibling? n else before) parent
      child where
  data_parent := by rw [Tree.data?_unlink, c.data_parent]
  data_child := by rw [Tree.data?_unlink, c.data_child]
  holds_children := c.holds_children
  not_above := by
    have hnot := c.not_above
    rw [Bool.eq_false_iff, ne_eq, Tree.Sound.isInclusiveAncestor_iff] at hnot ⊢
    have hpath : n ∉ p :: t.ancestors p := fun hn => hnot ⟨c.has_parent, List.mem_cons.mp hn⟩
    rw [h.ancestors_congr (h.unlink hold)]
    · simpa using hnot
    · intro a ha
      rw [Tree.Sound.parent?_unlink hold, if_neg]
      rintro rfl
      exact hpath ha
  beside b hb := by
    rw [Tree.Sound.parent?_unlink hold]
    split at hb
    · obtain rfl : old = p := Option.some.inj (hold.symm.trans (c.beside n ‹_›))
      obtain ⟨xs, ys, he, hcl⟩ := h.childList_split hold
      rw [h.nextSibling?_eq he] at hb
      have hmem : b ∈ xs ++ n :: ys := by simp [List.mem_of_head? hb]
      rw [if_neg, (hcl.mem b).mp hmem]
      rintro rfl
      have hnd := hcl.nodup
      rw [List.nodup_middle, List.nodup_cons] at hnd
      exact hnd.1 (List.mem_append_right xs (List.mem_of_head? hb))
    next hne =>
      rw [if_neg, c.beside b hb]
      rintro rfl
      exact hne hb
  not_misplaced := c.not_misplaced
  single hdoc b hb hne := by
    rw [Tree.data?_unlink]
    refine c.single hdoc b ?_ hne
    rw [(h.unlink hold).mem_children, Tree.Sound.parent?_unlink hold] at hb
    split at hb
    · cases hb
    · exact h.mem_children.mpr hb

end CanInsert

/-! ## Attributes -/

theorem Tree.element?_of_data? {t : Tree} {n : NodeId} {e : Element}
    (h : t.data? n = some (.element e)) : t.element? n = some e := by
  simp [element?, h, NodeData.element?]

namespace Element

/-- The attributes of all names but one have the same values. -/
def SameBut (changed : Name) (as bs : List Attribute) : Prop :=
  ∀ ns localName, ¬(changed.ns = ns ∧ changed.localName = localName) →
    as.find? (fun a => a.name.ns == ns && a.name.localName == localName) =
      bs.find? fun a => a.name.ns == ns && a.name.localName == localName

namespace SameBut

variable {changed : Name} {as bs : List Attribute}

theorem cons (a : Attribute) (h : SameBut changed as bs) : SameBut changed (a :: as) (a :: bs) := by
  intro ns l hne
  simp only [List.find?_cons]
  rw [h ns l hne]

/-- The attribute of the name does not count. -/
theorem drop (a : Attribute) (h : a.name = changed) : SameBut changed (a :: as) as := by
  intro ns l hne
  rw [List.find?_cons_of_neg]
  simpa [h] using hne

theorem symm (h : SameBut changed as bs) : SameBut changed bs as :=
  fun ns l hne => (h ns l hne).symm

theorem trans {cs : List Attribute} (h : SameBut changed as bs) (h' : SameBut changed bs cs) :
    SameBut changed as cs :=
  fun ns l hne => (h ns l hne).trans (h' ns l hne)

theorem putAttr (p : Attribute → Bool) (name : Name) (value : String) (as : List Attribute) :
    SameBut (Element.putAttr p name value as).2 (Element.putAttr p name value as).1 as := by
  induction as with
  | nil => exact drop ⟨name, value⟩ rfl
  | cons a as ih =>
    unfold Element.putAttr
    split
    · exact (drop ⟨a.name, value⟩ rfl).trans (drop a rfl).symm
    · exact ih.cons a

theorem eraseAttr? {p : Attribute → Bool} (h : Element.eraseAttr? p bs = some (as, changed)) :
    SameBut changed as bs := by
  induction bs generalizing as with
  | nil => cases h
  | cons b bs ih =>
    unfold Element.eraseAttr? at h
    split at h
    · cases h
      exact (drop b rfl).symm
    · obtain ⟨⟨rest, erased⟩, hrest, he⟩ := Option.map_eq_some_iff.mp h
      cases he
      exact (ih hrest).cons b

end SameBut

end Element

/-! ## Steps -/

open Document in
/-- One change of a document. The cascades that it may be given are those that are `allowed`. -/
inductive Step (allowed : Cascade → Prop) (d : Document) : Document → Prop where
  | push {data : NodeData} (hdata : data ≠ .document) : Step allowed d (d.push data)
  | detach {p n : NodeId} (hp : d.page.tree.parent? n = some p) : Step allowed d (d.detach p n)
  | attach {p n : NodeId} {before : Option NodeId} {parent child : NodeData}
    (hcan : CanInsert d.page.tree p n before parent child) (hroot : d.page.tree.parent? n = none) :
    Step allowed d (d.attach p n before)
  | attributes {n : NodeId} {e : Element} {attributes : List Attribute} {changed : Name}
    (he : d.page.tree.data? n = some (.element e))
    (hsame : Element.SameBut changed attributes e.attributes) :
    Step allowed d (d.withAttributes n e attributes changed)
  | states {n : NodeId} {e new : Element} (he : d.page.tree.data? n = some (.element e))
    (hname : new.name = e.name) (hattributes : new.attributes = e.attributes) :
    Step allowed d (d.withStates n new)
  | text {n : NodeId} {old new : NodeData} {text : String} (hold : d.page.tree.data? n = some old)
    (hnew : Edit.withText? text old = some new) : Step allowed d (d.withText n new)
  | url (url : Option Url) : Step allowed d (d.withUrl url)
  | header (value : Option String) : Step allowed d (d.withHeader value)
  | medium (medium : String) : Step allowed d (d.withMedium medium)
  | register (r : Registration) : Step allowed d (d.register r)
  | rebuild : Step allowed d (d.stale .sheets)
  | cascade {c : Cascade} (hc : allowed c) : Step allowed d (d.withCascade c)
  | loader (loader : Loader) : Step allowed d (d.withLoader loader)
  | selectSet (name : String) : Step allowed d (d.selectSet name)
  | enableSet (name : String) : Step allowed d (d.enableSet name)
  | readSheets : Step allowed d d.readSheets.2
  | readStyle (n : NodeId) (q : Option PseudoElement) : Step allowed d (d.readStyle n q).2

/-! ## What the page is after a step -/

namespace Document

variable (d : Document) (c : Change) (p n : NodeId)

/-- A notification concerns the style sheets and the styles alone. -/
theorem notify_frame : ∃ sheets cache, notify c d n = { d with sheets, cache } := by
  unfold notify
  split
  · exact ⟨_, _, rfl⟩
  · exact ⟨d.sheets, d.cache, rfl⟩

theorem notifyAll_frame (nodes : List NodeId) :
    ∃ sheets cache, d.notifyAll c nodes = { d with sheets, cache } := by
  induction nodes generalizing d with
  | nil => exact ⟨d.sheets, d.cache, rfl⟩
  | cons n nodes ih =>
    obtain ⟨_, _, hfirst⟩ := notify_frame d c n
    obtain ⟨sheets, cache, hrest⟩ := ih (notify c d n)
    refine ⟨sheets, cache, ?_⟩
    show (notify c d n).notifyAll c nodes = _
    rw [hrest, hfirst]

@[simp] theorem page_notify : (notify c d n).page = d.page := by
  obtain ⟨_, _, h⟩ := notify_frame d c n
  rw [h]

@[simp] theorem page_notifyAll (nodes : List NodeId) : (d.notifyAll c nodes).page = d.page := by
  obtain ⟨_, _, h⟩ := notifyAll_frame d c nodes
  rw [h]

@[simp] theorem tree_withTree (t : Tree) : (d.withTree t).page.tree = t := rfl

@[simp] theorem tree_push (data : NodeData) :
    (d.push data).page.tree = d.page.tree.push data := rfl

@[simp] theorem tree_detach : (d.detach p n).page.tree = d.page.tree.unlink n := by
  simp [detach]

@[simp] theorem tree_attach (before : Option NodeId) :
    (d.attach p n before).page.tree = d.page.tree.link p n before := by
  simp [attach]

/-- Reading the list of style sheets changes nothing but what is kept of it. -/
theorem readSheets_frame : ∃ sheets state,
    d.readSheets.2 = { d with sheets, cache := { d.cache with state } } := by
  unfold readSheets
  cases d.sheets.list with
  | some list => exact ⟨d.sheets, d.cache.state, rfl⟩
  | none => exact ⟨_, .clean, rfl⟩

@[simp] theorem page_readSheets : d.readSheets.2.page = d.page := by
  obtain ⟨_, _, h⟩ := readSheets_frame d
  rw [h]

/-- Reading fills what the document keeps: its styles, and perhaps its list of style sheets. -/
inductive Reads (d : Document) : Document → Prop where
  | styles (cache : StyleCache) : Reads d { d with cache }
  | list (cache : StyleCache) : Reads d { d.readSheets.2 with cache }

namespace Reads

variable {d d' : Document}

theorem withCache (h : Reads d d') (cache : StyleCache) : Reads d { d' with cache } := by
  cases h with
  | styles => exact .styles cache
  | list => exact .list cache

theorem readSheets (h : Reads d d') : Reads d d'.readSheets.2 := by
  cases hlist : d.sheets.list with
  | some list =>
    cases h with
    | styles cache | list cache =>
      have := Reads.styles (d := d) cache
      simpa [Document.readSheets, hlist] using this
  | none =>
    cases h with
    | styles cache =>
      have := Reads.list (d := d) cache.markClean
      simpa [Document.readSheets, hlist] using this
    | list cache =>
      have := Reads.list (d := d) cache
      simpa [Document.readSheets, hlist] using this

theorem compute (h : Reads d d') (n : NodeId) (q : Option PseudoElement)
    (parent : Option StyleObject) : Reads d (d'.compute n q parent).2 :=
  h.readSheets.withCache _

theorem resolveChain (h : Reads d d') (chain : List NodeId) :
    Reads d (d'.resolveChain chain).2 := by
  induction chain with
  | nil => exact h
  | cons n ancestors ih =>
    unfold Document.resolveChain
    split
    · exact h
    · exact ih.compute n none _

theorem readStyle (n : NodeId) (q : Option PseudoElement) : Reads d (d.readStyle n q).2 := by
  unfold Document.readStyle
  split
  · have hstart : Reads d { d with cache := d.cache.started } := .styles _
    cases q with
    | none => exact hstart.resolveChain _
    | some q =>
      dsimp only
      split
      · exact hstart
      · exact (hstart.resolveChain _).compute n (some q) _
  · exact .styles d.cache

theorem page (h : Reads d d') : d'.page = d.page := by
  cases h with
  | styles => rfl
  | list => exact page_readSheets d

end Reads

@[simp] theorem page_readStyle (q : Option PseudoElement) : (d.readStyle n q).2.page = d.page :=
  (Reads.readStyle n q).page

end Document

/-! ## Edits -/

namespace Edit

variable {α β : Type} {d : Document} {n p : NodeId}

theorem tree_bind (f : Tree → Edit α) : (tree >>= f) d = f d.page.tree d :=
  rfl

theorem modify_run (f : Document → Document) : (modify f : Edit Unit) d = .ok () (f d) :=
  rfl

theorem bind_run {e : Edit β} {f : β → Edit α} {b : β} {d' : Document} (h : e d = .ok b d') :
    (e >>= f) d = f b d' := by
  simp only [bind, EStateM.bind, h]

/-- What a child is taken out by. -/
theorem removeChild_eq (h : d.page.tree.Sound) (hp : d.page.tree.parent? n = some p) :
    removeChild p n d = .ok () (d.detach p n) := by
  have hhas : d.page.tree.has p = true := h.has_parent hp
  show (if !d.page.tree.has p || d.page.tree.parent? n != some p then _ else _ : Edit Unit) d = _
  rw [if_neg (by simp [hhas, hp])]
  rfl

theorem insertBefore_refused {before : Option NodeId} {e : DocumentError}
    (hcheck : insertionError? d.page.tree p n before = some e) :
    insertBefore p n before d = .error e d := by
  unfold insertBefore
  simp only [tree_bind, hcheck]
  rfl

/-- What a root is put in by. -/
theorem insertBefore_root {before : Option NodeId}
    (hcheck : insertionError? d.page.tree p n before = none)
    (hroot : d.page.tree.parent? n = none) :
    insertBefore p n before d = .ok () (d.attach p n before) := by
  obtain ⟨parent, child, hcan⟩ := canInsert_of_insertionError? hcheck
  have hne : before ≠ some n := by
    rintro rfl
    have := hcan.beside n rfl
    simp [hroot] at this
  unfold insertBefore
  simp only [tree_bind, hcheck, hroot, if_neg hne, modify_run]

/-- What a child is moved by. -/
theorem insertBefore_move {before : Option NodeId} {old : NodeId} (h : d.page.tree.Sound)
    (hcheck : insertionError? d.page.tree p n before = none)
    (hold : d.page.tree.parent? n = some old) :
    insertBefore p n before d = .ok () ((d.detach old n).attach p n
      (if before = some n then d.page.tree.nextSibling? n else before)) := by
  have hout : removeChild old n d = _ := removeChild_eq h hold
  unfold insertBefore
  simp only [tree_bind, hcheck, hold, bind_run hout, modify_run]

/-- The edit is refused and the document is as it was, or it leads to a document of which `Q`
holds. -/
def Leads (Q : Document → Prop) (e : Edit α) (d : Document) : Prop :=
  match e d with
  | .ok _ d' => Q d'
  | .error _ d' => d' = d

namespace Leads

variable {Q : Document → Prop}

theorem refuse (e : DocumentError) : (refuse e : Edit α).Leads Q d :=
  rfl

theorem stay (a : α) (h : Q d) : (pure a : Edit α).Leads Q d :=
  h

theorem tree {f : Tree → Edit α} (h : (f d.page.tree).Leads Q d) : (tree >>= f).Leads Q d :=
  h

theorem get {f : Document → Edit α} (h : (f d).Leads Q d) : (get >>= f).Leads Q d :=
  h

theorem modify {f : Document → Document} (h : Q (f d)) : (modify f : Edit Unit).Leads Q d :=
  h

theorem of_run {e : Edit α} {a : α} {d' : Document} (hrun : e d = .ok a d') (h : Q d') :
    e.Leads Q d := by
  unfold Leads
  rw [hrun]
  exact h

theorem map {f : α → β} {e : Edit α} (h : e.Leads Q d) : (f <$> e).Leads Q d := by
  unfold Leads at h ⊢
  cases he : e d <;>
    simpa [Functor.map, EStateM.map, he] using h

theorem silent {e : Edit α} (h : e.Leads Q d) : (silent e).Leads Q d := by
  unfold Leads at h ⊢
  cases he : e d <;>
    simpa [Edit.silent, discard, Functor.discard, Functor.mapConst, EStateM.map, bind,
      EStateM.bind, pure, EStateM.pure, he] using h

theorem mono {Q' : Document → Prop} {e : Edit α} (h : e.Leads Q d) (hQ : ∀ d', Q d' → Q' d') :
    e.Leads Q' d := by
  unfold Leads at h ⊢
  cases he : e d with
  | ok a d' =>
    rw [he] at h
    exact hQ d' h
  | error err d' =>
    rw [he] at h
    exact h

/-- What is refused leaves the document as it was, whatever the edit would have led to. -/
theorem refused {e : Edit α} {err : DocumentError} {d' : Document} (h : e.Leads Q d)
    (hrefused : e d = .error err d') : d' = d := by
  unfold Leads at h
  rw [hrefused] at h
  exact h

/-- What holds of the document, and of those that the edit leads to, holds afterwards. -/
theorem after {e : Edit α} (h : e.Leads Q d) (hd : Q d) : Q (e.after d) := by
  unfold Edit.after
  cases he : e d with
  | ok a d' =>
    unfold Leads at h
    rw [he] at h
    exact h
  | error err d' =>
    rw [h.refused he]
    exact hd

/-! ### Checks -/

theorem checkName {name : String} {f : Unit → Edit α} (h : (f ()).Leads Q d) :
    (checkName name >>= f).Leads Q d := by
  unfold Edit.checkName
  split
  · exact h
  · exact refuse _

theorem nameOf {ns : Option String} {qualified : String} {f : Name → Edit α}
    (h : ∀ name, Name.ofQualified (ns.getD Namespace.none) qualified = .ok name →
      (f name).Leads Q d) : (nameOf ns qualified >>= f).Leads Q d := by
  unfold Edit.nameOf
  split
  · exact h _ ‹_›
  · exact refuse _

theorem element {f : Element → Edit α}
    (h : ∀ e, d.page.tree.data? n = some (.element e) → (f e).Leads Q d) :
    (element n >>= f).Leads Q d := by
  unfold Edit.element
  rw [bind_assoc]
  refine tree ?_
  split
  · exact h _ ‹_›
  · exact refuse _
  · exact refuse _

/-! ### The tree -/

theorem push {data : NodeData} (h : Q (d.push data)) : (push data).Leads Q d :=
  h

theorem removeChild (h : d.page.tree.parent? n = some p → Q (d.detach p n)) :
    (removeChild p n).Leads Q d := by
  show (if !d.page.tree.has p || d.page.tree.parent? n != some p then _ else _ : Edit Unit).Leads
    Q d
  split
  · exact refuse _
  next hp =>
    refine modify (h ?_)
    simp only [Bool.or_eq_true, bne_iff_ne, not_or, not_not] at hp
    exact hp.2

/-- A node is put in, after it was taken out if it had a parent. -/
theorem insertBefore {before : Option NodeId} (h : d.page.tree.Sound)
    (hput : ∀ parent child, CanInsert d.page.tree p n before parent child →
      d.page.tree.parent? n = none → Q (d.attach p n before))
    (hmove : ∀ old reference parent child, d.page.tree.parent? n = some old →
      CanInsert (d.detach old n).page.tree p n reference parent child →
      (d.detach old n).page.tree.parent? n = none →
      Q ((d.detach old n).attach p n reference)) :
    (insertBefore p n before).Leads Q d := by
  cases hcheck : insertionError? d.page.tree p n before with
  | some e =>
    unfold Leads
    rw [insertBefore_refused hcheck]
  | none =>
    obtain ⟨parent, child, hcan⟩ := canInsert_of_insertionError? hcheck
    cases hold : d.page.tree.parent? n with
    | none => exact of_run (insertBefore_root hcheck hold) (hput parent child hcan hold)
    | some old =>
      have hmid := hcan.unlink h hold
      have hroot := Tree.Sound.parent?_unlink hold (m := n)
      rw [if_pos rfl] at hroot
      rw [← Document.tree_detach] at hmid hroot
      exact of_run (insertBefore_move h hcheck hold) (hmove old _ parent child hold hmid hroot)

/-! ### Attributes and text -/

theorem putAttribute {q : Attribute → Bool} {name : Name} {value : String}
    (h : ∀ e, d.page.tree.data? n = some (.element e) →
      let put := Element.putAttr q name value e.attributes
      Q (d.withAttributes n e put.1 put.2)) :
    (putAttribute n q name value).Leads Q d :=
  element fun e he => modify (h e he)

theorem eraseAttribute {q : Attribute → Bool} (hnone : Q d)
    (h : ∀ e as erased, d.page.tree.data? n = some (.element e) →
      Element.eraseAttr? q e.attributes = some (as, erased) →
      Q (d.withAttributes n e as erased)) :
    (eraseAttribute n q).Leads Q d := by
  refine element fun e he => ?_
  split
  next as erased herase => exact modify (h e as erased he herase)
  · exact stay () hnone

theorem setText {text : String}
    (h : ∀ old new, d.page.tree.data? n = some old → withText? text old = some new →
      Q (d.withText n new)) :
    (setText n text).Leads Q d := by
  refine tree ?_
  split
  · exact refuse _
  next old hold =>
    split
    · exact refuse _
    next new hnew => exact modify (h old new hold hnew)

/-! ### The document -/

theorem setMedium {medium : String} (hsame : d.medium = medium → Q d)
    (h : d.medium ≠ medium → Q (d.withMedium medium)) : (setMedium medium).Leads Q d := by
  refine get ?_
  split
  next hne => exact modify (h hne)
  next hsame' => exact stay () (hsame (not_not.mp hsame'))

theorem register {r : Registration} (h : Q (d.register r)) : (register r).Leads Q d := by
  unfold Edit.register
  split
  · exact refuse _
  · refine get ?_
    split
    · exact refuse _
    · exact modify h

/-! ### States -/

theorem putStates {old new : Element} (hsame : Q d) (h : Q (d.withStates n new)) :
    (putStates n old new).Leads Q d := by
  unfold Edit.putStates
  split
  · exact modify h
  · exact stay () hsame

/-! ### Sets of style sheets -/

/-- The list is read first unless the name is empty, even if the name turns out to be unknown. -/
theorem selectSet {name : String} (hnone : name = "" → Q (d.selectSet name))
    (hread : name ≠ "" → d.readSheets.1.sets.contains name = false → Q d.readSheets.2)
    (hknown : name ≠ "" → d.readSheets.1.sets.contains name = true →
      Q (d.readSheets.2.selectSet name)) : (selectSet name).Leads Q d := by
  unfold Edit.selectSet
  split
  next hempty => exact modify (hnone hempty)
  next hne =>
    have hlist : ((·.sets.contains name) <$> sheetList) d =
        .ok (d.readSheets.1.sets.contains name) d.readSheets.2 := rfl
    unfold Leads
    rw [bind_run hlist]
    cases hc : d.readSheets.1.sets.contains name with
    | true => exact hknown hne hc
    | false => exact hread hne hc

theorem enableSet {name : String} (hnone : name = "" → Q d)
    (h : name ≠ "" → Q (d.enableSet name)) : (enableSet name).Leads Q d := by
  unfold Edit.enableSet
  split
  next hne => exact modify (h hne)
  next hempty => exact stay () (hnone (not_not.mp hempty))

end Leads

end Edit

end StyleTree
