import Mathlib.Logic.Relation
import StyleTree.Proofs.Document.Step

/-!
# What becomes of a document in an operation

`Course` lists all that an operation can come to, with what was checked on the way: the document is
as it was, if the operation is refused or finds nothing to do, or it was changed in the one way in
which the operation changes documents. Every operation takes its course, and each course is made of
steps, so what every step preserves holds of every document that operations lead to.
-/

namespace StyleTree

namespace Operation

/-! ## Kinds of operations -/

/-- The operation makes a node. -/
def isCreation : Operation → Bool
  | createElement .. | createElementNs .. | createText .. | createComment ..
  | createEntityReference .. | createInstruction .. => true
  | _ => false

/-- The operation sets or removes an attribute. -/
def isOfAttribute : Operation → Bool
  | setAttribute .. | setAttributeNs .. | removeAttribute .. | removeAttributeNs .. => true
  | _ => false

/-- The operation puts an element into states or takes it out of some. -/
def isOfStates : Operation → Bool
  | setState .. | addCustomState .. | removeCustomState .. | clearStates .. => true
  | _ => false

/-- The element whose attribute the operation sets or removes, and the name of that attribute. None
if the operation leaves all attributes as they are. -/
def changedAttribute? (p : Page) : Operation → Option (NodeId × Name)
  | setAttribute n name value =>
    (p.element? n).map fun e =>
      let name := if p.isHtmlElement n then Ascii.lower name else name
      (n, (Element.putAttr (·.name.qualified == name) (.plain name) value e.attributes).2)
  | setAttributeNs n ns qualified value =>
    (Name.ofQualified (ns.getD Namespace.none) qualified).toOption.bind fun name =>
      (p.element? n).map fun e =>
        (n, (Element.putAttr (fun a => a.name.ns == name.ns && a.name.localName == name.localName)
          name value e.attributes).2)
  | removeAttribute n name =>
    (p.element? n).bind fun e =>
      let name := if p.isHtmlElement n then Ascii.lower name else name
      (Element.eraseAttr? (·.name.qualified == name) e.attributes).map fun erased => (n, erased.2)
  | removeAttributeNs n ns localName =>
    (p.element? n).bind fun e =>
      (Element.eraseAttr? (fun a => a.name.ns == ns.getD Namespace.none &&
        a.name.localName == localName) e.attributes).map fun erased => (n, erased.2)
  | _ => none

end Operation

namespace Document

/-- A document and what an operation may make of it. -/
inductive Course (d : Document) : Operation → Document → Prop where
  /-- The operation is refused, or finds nothing to do. -/
  | nothing (o : Operation) : Course d o d
  | push {o : Operation} {data : NodeData} (ho : o.isCreation = true) (hdata : data ≠ .document) :
    Course d o (d.push data)
  | putIn {p n : NodeId} {before : Option NodeId} {parent child : NodeData}
    (hcan : CanInsert d.page.tree p n before parent child) (hroot : d.page.tree.parent? n = none) :
    Course d (.insertBefore p n before) (d.attach p n before)
  /-- The node is taken out from below `old` first. -/
  | move {p n old : NodeId} {before reference : Option NodeId} {parent child : NodeData}
    (hold : d.page.tree.parent? n = some old)
    (hcan : CanInsert (d.detach old n).page.tree p n reference parent child)
    (hroot : (d.detach old n).page.tree.parent? n = none) :
    Course d (.insertBefore p n before) ((d.detach old n).attach p n reference)
  | takeOut {p n : NodeId} (hp : d.page.tree.parent? n = some p) :
    Course d (.removeChild p n) (d.detach p n)
  | attributes {o : Operation} {n : NodeId} {e : Element} {attributes : List Attribute}
    {changed : Name} (ho : o.changedAttribute? d.page = some (n, changed))
    (he : d.page.tree.data? n = some (.element e))
    (hsame : Element.SameBut changed attributes e.attributes) :
    Course d o (d.withAttributes n e attributes changed)
  | states {o : Operation} {n : NodeId} {e new : Element} (ho : o.isOfStates = true)
    (he : d.page.tree.data? n = some (.element e)) (hname : new.name = e.name)
    (hattributes : new.attributes = e.attributes) : Course d o (d.withStates n new)
  | text {n : NodeId} {old new : NodeData} {text : String} (hold : d.page.tree.data? n = some old)
    (hnew : Edit.withText? text old = some new) : Course d (.setText n text) (d.withText n new)
  | url (url : Option Url) : Course d (.setUrl url) (d.withUrl url)
  | header (value : Option String) : Course d (.setHeader value) (d.withHeader value)
  | medium {medium : String} (hne : d.medium ≠ medium) :
    Course d (.setMedium medium) (d.withMedium medium)
  | register (r : Registration) : Course d (.register r) (d.register r)
  | rebuild : Course d .rebuild (d.stale .sheets)
  | cascade (c : Cascade) : Course d (.setCascade c) (d.withCascade c)
  | loader (loader : Loader) : Course d (.setLoader loader) (d.withLoader loader)
  /-- The empty text is selected without a look at the list. -/
  | selectNone : Course d (.selectSet "") (d.selectSet "")
  | selectUnknown {name : String} (hne : name ≠ "")
    (hname : d.readSheets.1.sets.contains name = false) :
    Course d (.selectSet name) d.readSheets.2
  | selectKnown {name : String} (hne : name ≠ "")
    (hname : d.readSheets.1.sets.contains name = true) :
    Course d (.selectSet name) (d.readSheets.2.selectSet name)
  | enableSet {name : String} (hne : name ≠ "") : Course d (.enableSet name) (d.enableSet name)
  | readSheets : Course d .readSheets d.readSheets.2
  | readStyle (n : NodeId) (q : Option PseudoElement) :
    Course d (.readStyle n q) (d.readStyle n q).2

variable {d d' : Document} {o : Operation}

/-! ## Operations take their course -/

/-- An operation is refused and changes nothing, or takes its course. -/
theorem leads_course (h : d.page.tree.Sound) (o : Operation) : o.edit.Leads (d.Course o) d := by
  cases o with
  | createElement localName => exact .map (.checkName (.push (.push rfl (by simp))))
  | createElementNs ns qualified => exact .map (.nameOf fun _ _ => .push (.push rfl (by simp)))
  | createText data => exact .map (.push (.push rfl (by simp)))
  | createComment data => exact .map (.push (.push rfl (by simp)))
  | createEntityReference name text => exact .map (.checkName (.push (.push rfl (by simp))))
  | createInstruction target data =>
    refine .map (.checkName ?_)
    dsimp only
    split
    · exact .refuse _
    · exact .push (.push rfl (by simp))
  | insertBefore parent node before =>
    refine .silent (.insertBefore h ?_ ?_)
    · intro parent child hcan hroot
      exact .putIn hcan hroot
    · intro old reference parent child hold hcan hroot
      exact .move hold hcan hroot
  | removeChild parent node => exact .silent (.removeChild fun hp => .takeOut hp)
  | setAttribute n name value =>
    refine .silent (.checkName (.get (.putAttribute fun e he => ?_)))
    refine .attributes ?_ he (.putAttr _ _ value _)
    exact Option.map_eq_some_iff.mpr ⟨e, Tree.element?_of_data? he, rfl⟩
  | setAttributeNs n ns qualified value =>
    refine .silent (.nameOf fun name hname => .putAttribute fun e he => ?_)
    refine .attributes (Option.bind_eq_some_iff.mpr ⟨name, by rw [hname]; rfl, ?_⟩) he
      (.putAttr _ name value _)
    exact Option.map_eq_some_iff.mpr ⟨e, Tree.element?_of_data? he, rfl⟩
  | removeAttribute n name =>
    refine .silent (.get (.eraseAttribute (.nothing _) fun e as erased he herase => ?_))
    refine .attributes (Option.bind_eq_some_iff.mpr ⟨e, Tree.element?_of_data? he, ?_⟩) he
      (.eraseAttr? herase)
    exact Option.map_eq_some_iff.mpr ⟨_, herase, rfl⟩
  | removeAttributeNs n ns localName =>
    refine .silent (.eraseAttribute (.nothing _) fun e as erased he herase => ?_)
    refine .attributes (Option.bind_eq_some_iff.mpr ⟨e, Tree.element?_of_data? he, ?_⟩) he
      (.eraseAttr? herase)
    exact Option.map_eq_some_iff.mpr ⟨_, herase, rfl⟩
  | setText n text => exact .silent (.setText fun old new hold hnew => .text hold hnew)
  | setUrl url => exact .silent (.modify (.url url))
  | setHeader value => exact .silent (.modify (.header value))
  | setMedium medium => exact .silent (.setMedium (fun _ => .nothing _) fun hne => .medium hne)
  | register r => exact .silent (.register (.register r))
  | rebuild => exact .silent (.modify .rebuild)
  | setCascade c => exact .silent (.modify (.cascade c))
  | setLoader loader => exact .silent (.modify (.loader loader))
  | setState n flags value =>
    exact .silent (.element fun e he => .putStates (.nothing _) (.states rfl he rfl rfl))
  | addCustomState n name =>
    exact .silent (.element fun e he => .putStates (.nothing _) (.states rfl he rfl rfl))
  | removeCustomState n name =>
    exact .silent (.element fun e he => .putStates (.nothing _) (.states rfl he rfl rfl))
  | clearStates n => exact .silent (.element fun e he => .modify (.states rfl he rfl rfl))
  | selectSet name =>
    refine .silent (.selectSet ?_ ?_ ?_)
    · rintro rfl
      exact .selectNone
    · intro hne hname
      exact .selectUnknown hne hname
    · intro hne hname
      exact .selectKnown hne hname
  | enableSet name => exact .silent (.enableSet (fun _ => .nothing _) fun hne => .enableSet hne)
  | readSheets => exact .silent (.of_run rfl .readSheets)
  | readStyle n q => exact .silent (.of_run rfl (.readStyle n q))

theorem perform_course (h : d.page.tree.Sound) (o : Operation) : d.Course o (d.perform o) :=
  (leads_course h o).after (.nothing o)

/-! ## Courses are made of steps -/

section Steps

variable {allowed : Cascade → Prop}

open Relation (ReflTransGen)

theorem Course.steps (h : d.Course o d') (hc : ∀ c, o = .setCascade c → allowed c) :
    ReflTransGen (Step allowed) d d' := by
  cases h with
  | nothing => exact .refl
  | push _ hdata => exact .single (.push hdata)
  | putIn hcan hroot => exact .single (.attach hcan hroot)
  | move hold hcan hroot => exact .tail (.single (.detach hold)) (.attach hcan hroot)
  | takeOut hp => exact .single (.detach hp)
  | attributes _ he hsame => exact .single (.attributes he hsame)
  | states _ he hname hattributes => exact .single (.states he hname hattributes)
  | text hold hnew => exact .single (.text hold hnew)
  | url url => exact .single (.url url)
  | header value => exact .single (.header value)
  | @medium medium _ => exact .single (.medium medium)
  | register r => exact .single (.register r)
  | rebuild => exact .single .rebuild
  | cascade c => exact .single (.cascade (hc c rfl))
  | loader loader => exact .single (.loader loader)
  | selectNone => exact .single (.selectSet "")
  | selectUnknown => exact .single .readSheets
  | @selectKnown name _ _ => exact .tail (.single .readSheets) (.selectSet name)
  | @enableSet name _ => exact .single (.enableSet name)
  | readSheets => exact .single .readSheets
  | readStyle n q => exact .single (.readStyle n q)

/-- An operation takes a document to another one by steps. -/
theorem perform_steps (h : d.page.tree.Sound) (o : Operation)
    (hc : ∀ c, o = .setCascade c → allowed c) :
    ReflTransGen (Step allowed) d (d.perform o) :=
  (perform_course h o).steps hc

/-- What every step preserves holds after every run of operations. -/
theorem run_induction (allowed : Cascade → Prop) {P : Document → Prop}
    (hsound : ∀ d, P d → d.page.tree.Sound) (hstep : ∀ d d', P d → Step allowed d d' → P d')
    (os : List Operation) (hc : ∀ c, .setCascade c ∈ os → allowed c) (h : P d) :
    P (d.run os) := by
  induction os generalizing d with
  | nil => exact h
  | cons o os ih =>
    refine ih (fun c hmem => hc c (List.mem_cons_of_mem o hmem)) ?_
    have hsteps := perform_steps (hsound d h) o fun c ho => hc c (ho ▸ List.mem_cons_self)
    generalize d.perform o = d' at hsteps
    induction hsteps with
    | refl => exact h
    | tail _ hlast ih => exact hstep _ _ ih hlast

end Steps

end Document

end StyleTree
