import Mathlib
import Workflow.Console.PlanView
import Workflow.Console.Tables
import Workflow.Proofs.Console.Escaped

/-! The active tags of what is shown of plans and runs, for all texts from outside: when they are
those of the templates. -/

namespace Workflow

open Markup

namespace Markup

def escapesNext (s : String) : Bool :=
  trailing 0 s.toList % 2 == 1 && trailing 0 s.toList != 1

variable {s : String} {n : Nat} {a more : List Char} {c : Char}

lemma trailing_escape_even : trailing 0 (escape s).toList % 2 = 0 ↔ escapesNext s = false := by
  rw [trailing_escape, escapesNext]
  split_ifs with h
  · simp [h]
  · simp [h]

lemma activeFrom_closeTag : activeFrom n ['[', '/', ']'] = if n % 2 = 0 then ["/"] else [] := by
  have htags : tags n ['[', '/', ']'] = [⟨n, ['/']⟩] := by
    rw [tags_bracket, if_pos (by decide), tags_other (by decide) (by decide),
      tags_other (by decide) (by decide), tags_nil]
    rfl
  rw [activeFrom, htags]
  by_cases hn : n % 2 = 0 <;> simp [Tag.active, hn]

lemma activeFrom_template (ho : opening? 0 a = none) (ht : trailing 0 a = 0) :
    activeFrom 0 (a ++ more) = activeFrom 0 a ++ activeFrom 0 more := by
  rw [activeFrom_append, ho, ht]
  simp [activeJoint, joint]

lemma activeFrom_other (hs : c ≠ '\\') (ho : c ≠ '[') :
    activeFrom n (c :: more) = activeFrom 0 more := by
  rw [activeFrom, tags_other hs ho]
  rfl

lemma activeFrom_before_escape (hb : bare a = true) (ht : trailing 0 a = 0) :
    activeFrom 0 (a ++ (escape s).toList) = [] := by
  rw [activeFrom_template (opening?_of_bare hb) ht, activeFrom_escape, activeFrom, tags_of_bare hb]
  rfl

end Markup

namespace Status

def color : Status → String
  | .pending => "dim"
  | .running => "blue"
  | .completed => "green"
  | .failed => "red"
  | .waitingForUser => "yellow"

lemma activeTags_markup (s : Status) : activeTags s.markup = [s.color, "/"] := by
  cases s <;> cbv

lemma closes_markup (s : Status) : closes s.markup.toList = false := by
  cases s <;> decide

def otherName (status : String) : String := if (ofName? status).isSome then "" else status

variable {status : String}

lemma closes_markupOfName :
    closes (markupOfName status).toList = closes (otherName status).toList := by
  rw [markupOfName, otherName]
  cases ofName? status with
  | none => simpa using closes_escape_append (s := status) (b := [])
  | some s => exact s.closes_markup

lemma activeTags_markupOfName : activeTags (markupOfName status) =
    ((ofName? status).map fun s => [s.color, "/"]).getD [] := by
  rw [markupOfName]
  cases ofName? status with
  | none => exact activeFrom_escape
  | some s => exact s.activeTags_markup

end Status

namespace PlanNode

variable {n : PlanNode} {id type other status : String} {more : List Char} {kind : NodeKind}

def unstarted (status : String) : Bool := status.isEmpty || status == Status.pending.name

def labelTags (n : PlanNode) (status : String) : List String :=
  if unstarted status then [n.kind.color, "/"]
  else ((Status.ofName? status).map fun s => [s.color, "/"]).getD []

def Apart (id type other : String) : Prop :=
  ¬(leavesOpen id = true ∧ closes (type ++ other).toList = true) ∧
    ¬(leavesOpen type = true ∧ closes other.toList = true)

section Name

variable (hc : closes more = closes other.toList)
include hc

lemma closes_append_of_eq (s : String) :
    closes (s.toList ++ more) = closes (s ++ other).toList := by
  rw [String.toList_append, closes_append, closes_append, hc]

lemma activeFrom_untyped :
    activeFrom 0 ((escape id).toList ++ ' ' :: more) = activeFrom 0 (' ' :: more) ↔
      Apart id "" other := by
  have hopen : leavesOpen "" = false := by cbv
  have hnext : activeFrom (trailing 0 (escape id).toList) (' ' :: more) =
      activeFrom 0 (' ' :: more) := by
    rw [activeFrom_other (by decide) (by decide), activeFrom_other (by decide) (by decide)]
  have hspace : closes (' ' :: more) = closes other.toList := hc
  rw [activeFrom_escape_append, hnext, List.append_left_eq_self, stray_eq_nil_iff rfl, hspace,
    Apart, hopen, String.empty_append]
  simp

lemma activeFrom_typed (id type : String) :
    activeFrom 0 ((escape id).toList ++ ' ' :: '(' :: ((escape type).toList ++ ')' :: more)) =
      activeFrom 0 more ↔ Apart id type other := by
  have htype : closes (')' :: more) = closes other.toList := hc
  have hid : closes (' ' :: '(' :: ((escape type).toList ++ ')' :: more)) =
      closes (type ++ other).toList := by
    rw [closes_other (by decide) (by decide), closes_other (by decide) (by decide),
      closes_escape_append, closes_append_of_eq htype]
  -- a tag can begin in the id or in the type only, as the round brackets begin none
  rw [activeFrom_escape_append, activeFrom_other (by decide) (by decide),
    activeFrom_other (by decide) (by decide), activeFrom_escape_append,
    activeFrom_other (by decide) (by decide), ← List.append_assoc, List.append_left_eq_self,
    List.append_eq_nil_iff, stray_eq_nil_iff rfl, stray_eq_nil_iff rfl, hid, htype, Apart]

end Name

/-- The parts of a label keep apart, and the closing tag is not escaped by the id. -/
def Contained (n : PlanNode) (id status : String) : Prop :=
  Apart id (n.workerType.getD "") (Status.otherName status) ∧
    ¬(unstarted status = true ∧ n.workerType.getD "" = "" ∧ escapesNext id = true)

section Template

lemma activeFrom_symbol :
    activeFrom 0 (kind.symbol.toList ++ ' ' :: more) = activeFrom 0 more := by
  rw [activeFrom_template (by cases kind <;> rfl) (by cases kind <;> rfl),
    activeFrom_other (by decide) (by decide)]
  have : activeFrom 0 kind.symbol.toList = [] := by cases kind <;> cbv
  rw [this, List.nil_append]

lemma activeFrom_color : activeFrom 0 ('[' :: (kind.color.toList ++ ']' :: more)) =
    kind.color :: activeFrom 0 more := by
  have happ : '[' :: (kind.color.toList ++ ']' :: more) =
      '[' :: (kind.color.toList ++ [']']) ++ more := by simp
  rw [happ, activeFrom_template (by cases kind <;> rfl) (by cases kind <;> rfl)]
  have : activeFrom 0 ('[' :: (kind.color.toList ++ [']'])) = [kind.color] := by
    cases kind <;> cbv
  rw [this, List.singleton_append]

end Template

def typeChars (type : String) : List Char :=
  if type = "" then [] else ' ' :: '(' :: ((escape type).toList ++ [')'])

def nameChars (n : PlanNode) (id : String) : List Char :=
  n.kind.symbol.toList ++ ' ' :: ((escape id).toList ++ typeChars (n.workerType.getD ""))

lemma label_of_unstarted (h : unstarted status = true) : (n.label id status).toList =
    '[' :: (n.kind.color.toList ++ ']' :: (n.nameChars id ++ ['[', '/', ']'])) := by
  rw [label, if_pos (by simpa [unstarted] using h), nameChars, typeChars]
  by_cases ht : n.workerType.getD "" = "" <;> simp [ht, toString]

lemma label_of_started (h : unstarted status = false) : (n.label id status).toList =
    n.nameChars id ++ ' ' :: (Status.markupOfName status).toList := by
  have h' : ¬(status.isEmpty || status == Status.pending.name) = true := by
    simpa [unstarted] using h
  rw [label, if_neg h', nameChars, typeChars]
  by_cases ht : n.workerType.getD "" = "" <;> simp [ht, toString]

lemma otherName_of_unstarted (h : unstarted status = true) : Status.otherName status = "" := by
  rw [unstarted, Bool.or_eq_true, String.isEmpty_iff, beq_iff_eq] at h
  rcases h with rfl | rfl <;> rfl

lemma labelTags_of_started (h : unstarted status = false) :
    n.labelTags status = activeTags (Status.markupOfName status) := by
  rw [labelTags, h, Status.activeTags_markupOfName]
  rfl

lemma activeFrom_name_iff (hc : closes more = closes other.toList) :
    activeFrom 0 (n.nameChars id ++ ' ' :: more) = activeFrom 0 more ↔
      Apart id (n.workerType.getD "") other := by
  have hspace : activeFrom 0 (' ' :: more) = activeFrom 0 more :=
    activeFrom_other (by decide) (by decide)
  rw [nameChars, List.append_assoc, List.cons_append, activeFrom_symbol, List.append_assoc,
    typeChars]
  split_ifs with ht
  · rw [ht, List.nil_append, ← activeFrom_untyped hc, hspace]
  · have hc' : closes (' ' :: more) = closes other.toList := hc
    simpa [hspace] using activeFrom_typed hc' id (n.workerType.getD "")

lemma label_started_iff (h : unstarted status = false) :
    activeTags (n.label id status) = n.labelTags status ↔ n.Contained id status := by
  rw [activeTags, label_of_started h, labelTags_of_started h, activeTags,
    activeFrom_name_iff Status.closes_markupOfName, Contained, h]
  simp

lemma label_unstarted_iff (h : unstarted status = true) :
    activeTags (n.label id status) = n.labelTags status ↔ n.Contained id status := by
  have hlabel : n.labelTags status = [n.kind.color, "/"] := by rw [labelTags, h]; rfl
  have hend : closes ['[', '/', ']'] = closes "".toList := rfl
  rw [activeTags, label_of_unstarted h, hlabel, activeFrom_color, List.cons_inj_right, Contained,
    otherName_of_unstarted h, h, nameChars, List.append_assoc, List.cons_append, activeFrom_symbol,
    List.append_assoc, typeChars]
  split_ifs with ht
  · -- without a type, the closing tag stands right behind the id
    have hapart : Apart id "" "" := by simp [Apart, closes]
    have hstray : stray id ['[', '/', ']'] = [] := (stray_eq_nil_iff rfl).mpr (by simp [closes])
    rw [List.nil_append, activeFrom_escape_append, hstray, activeFrom_closeTag, ht]
    simp only [List.nil_append, trailing_escape_even]
    cases hn : escapesNext id <;> simp [hapart]
  · have htyped := activeFrom_typed hend id (n.workerType.getD "")
    rw [activeFrom_closeTag] at htyped
    simpa [ht] using htyped

lemma activeTags_label_iff :
    activeTags (n.label id status) = n.labelTags status ↔ n.Contained id status := by
  cases h : unstarted status with
  | true => exact label_unstarted_iff h
  | false => exact label_started_iff h

end PlanNode

namespace Markup

variable {width : Int} {s : String} {cs : List Char}

lemma activeFrom_dots (h : activeFrom 0 cs = []) : activeFrom 0 (cs ++ ['.', '.', '.']) = [] := by
  have hdots : activeFrom (trailing 0 cs) ['.', '.', '.'] = [] := by
    rw [activeFrom, tags_of_bare rfl]
    rfl
  rw [activeFrom_append_of_not_closes rfl, h, hdots, List.append_nil]

lemma activeTags_cut : activeTags (cut width (escape s)) = [] := by
  rw [cut]
  generalize (if width < 3 then _ else _ : Int) = kept
  split_ifs
  · exact activeFrom_escape
  · rw [activeTags, String.toList_append, String.toList_ofList]
    exact activeFrom_dots (activeFrom_take activeFrom_escape kept.toNat)

lemma activeTags_brief (x : Json) : activeTags (brief width x) = [] := by
  cases x with
  | null => cbv
  | str s => exact activeTags_cut
  | _ => exact activeTags_cut

lemma trailing_cut_even : trailing 0 (cut width (escape s)).toList % 2 = 0 ↔
    ¬((escape s).toList.length ≤ width ∧ escapesNext s = true) := by
  rw [cut]
  generalize (if width < 3 then _ else _ : Int) = kept
  split_ifs with h
  · simp [h, trailing_escape_even]
  · rw [String.toList_append, trailing_append]
    simp [h, trailing]

end Markup

lemma exists_of_mem_mapM {α β ε : Type} {f : α → Except ε β} {l : List α} {rows : List β} {b : β}
    (h : l.mapM f = .ok rows) (hb : b ∈ rows) : ∃ a ∈ l, f a = .ok b := by
  induction l generalizing rows with
  | nil =>
    cases h
    cases hb
  | cons a l ih =>
    rw [List.mapM_cons] at h
    cases ha : f a with
    | error e => simp [ha, bind, Except.bind] at h
    | ok first =>
      cases hl : l.mapM f with
      | error e => simp [ha, hl, bind, Except.bind] at h
      | ok rest =>
        obtain rfl : first :: rest = rows := by
          simpa [ha, hl, bind, Except.bind, pure, Except.pure] using h
        rcases List.mem_cons.mp hb with rfl | hb
        · exact ⟨a, List.mem_cons_self, ha⟩
        · obtain ⟨c, hc, hf⟩ := ih hl hb
          exact ⟨c, List.mem_cons_of_mem _ hc, hf⟩

namespace Run

def detailTags (s : NodeState) : List String :=
  match s.error with
  | none | some "" => []
  | some _ => ["red", "/"]

def DetailContained (s : NodeState) : Prop :=
  ∀ error, s.error = some error → (escape error).toList.length ≤ 50 → escapesNext error = false

lemma activeTags_red {error : String} : activeTags s!"[red]{brief 50 (.str error)}[/]" =
    "red" :: if trailing 0 (brief 50 (.str error)).toList % 2 = 0 then ["/"] else [] := by
  have hred : activeFrom 0 ['[', 'r', 'e', 'd', ']'] = ["red"] := by cbv
  have hsplit : (s!"[red]{brief 50 (.str error)}[/]").toList =
      ['[', 'r', 'e', 'd', ']'] ++ ((brief 50 (.str error)).toList ++ ['[', '/', ']']) := by
    simp [toString]
  have hbrief : activeFrom 0 (brief 50 (.str error)).toList = [] := activeTags_brief _
  rw [activeTags, hsplit, activeFrom_template rfl rfl, hred,
    activeFrom_append_of_not_closes rfl, hbrief, activeFrom_closeTag, List.nil_append,
    List.singleton_append]

lemma detail_of_error {s : NodeState} {error : String} (h : s.error = some error)
    (hne : error ≠ "") :
    detail s = s!"[red]{brief 50 (.str error)}[/]" ∧ detailTags s = ["red", "/"] := by
  constructor
  · rw [detail, h]
    simp only
  · rw [detailTags, h]
    simp only

lemma detail_of_output {s : NodeState} (h : s.error = none ∨ s.error = some "") :
    detail s = brief 50 s.output ∧ detailTags s = [] := by
  rcases h with h | h <;> constructor <;> simp only [detail, detailTags, h]

lemma detail_iff_of_output {s : NodeState} (h : s.error = none ∨ s.error = some "") :
    activeTags (detail s) = detailTags s ↔ DetailContained s := by
  have hcontained : DetailContained s := by
    intro error he _
    rcases h with h | h
    · simp [h] at he
    · obtain rfl : "" = error := by simpa [h] using he
      cbv
  rw [(detail_of_output h).1, (detail_of_output h).2, activeTags_brief]
  simp [hcontained]

lemma activeTags_detail_iff (s : NodeState) :
    activeTags (detail s) = detailTags s ↔ DetailContained s := by
  cases he : s.error with
  | none => exact detail_iff_of_output (.inl he)
  | some error =>
    by_cases hne : error = ""
    · exact detail_iff_of_output (.inr (hne ▸ he))
    have heven : trailing 0 (brief 50 (.str error)).toList % 2 = 0 ↔
        ¬((escape error).toList.length ≤ (50 : Int) ∧ escapesNext error = true) := trailing_cut_even
    have hclosed (p : Prop) [Decidable p] : (if p then ["/"] else []) = ["/"] ↔ p := by
      split_ifs <;> simp [*]
    rw [(detail_of_error he hne).1, (detail_of_error he hne).2, activeTags_red,
      List.cons_inj_right, hclosed, heven, DetailContained, he]
    simp only [Option.some.injEq, forall_eq']
    constructor
    · intro h hlen
      by_contra hesc
      exact h ⟨by exact_mod_cast hlen, by simpa using hesc⟩
    · intro h hboth
      simp [h (by exact_mod_cast hboth.1)] at hboth

variable {r : Run} {kindOf : String → Option NodeKind} {key : String} {row : List String}

lemma activeTags_row (h : r.row kindOf key = .ok row) : ∃ label kind s,
    r.stateAt key = .ok s ∧ row = [label, kind, s.status.markup, detail s] ∧
      activeTags label = [] := by
  have hnamed : activeTags s!"  └ {escape key}" = [] := by
    have hsplit : (s!"  └ {escape key}").toList = [' ', ' ', '└', ' '] ++ (escape key).toList := by
      simp [toString]
    rw [activeTags, hsplit, activeFrom_before_escape (by decide) rfl]
  rw [Run.row] at h
  cases hs : r.stateAt key with
  | error missing => simp [hs, Failure.ofMissing, Except.mapError, bind, Except.bind] at h
  | ok s =>
    simp only [hs, Failure.ofMissing, Except.mapError, bind, Except.bind, pure, Except.pure,
      Except.ok.injEq] at h
    refine ⟨_, _, s, rfl, h.symm, ?_⟩
    split
    · exact hnamed
    · exact activeFrom_escape

variable {plan? : Option Plan} {t : Table}

lemma table_parts (h : r.table plan? = .ok t) : t.title = s!"Run {escape r.id}" ∧
    ∀ row ∈ t.rows, ∃ kindOf, ∃ key ∈ r.effectiveKeys, r.row kindOf key = .ok row := by
  rw [table] at h
  generalize (fun id => (plan?.bind fun p => p.node? id).map (·.kind)) = kindOf at h
  cases hrows : r.effectiveKeys.mapM (r.row kindOf) with
  | error e => simp [hrows, bind, Except.bind] at h
  | ok rows =>
    simp only [hrows, bind, Except.bind, pure, Except.pure, Except.ok.injEq] at h
    subst h
    exact ⟨rfl, fun row hrow => ⟨kindOf, exists_of_mem_mapM hrows hrow⟩⟩

lemma activeTags_title : activeTags s!"Run {escape r.id}" = [] := by
  have hsplit : (s!"Run {escape r.id}").toList = ['R', 'u', 'n', ' '] ++ (escape r.id).toList := by
    simp [toString]
  rw [activeTags, hsplit, activeFrom_before_escape (by decide) rfl]

end Run

/-- In labels and in the cells of a run, the active tags are those of the templates, except where a
bracket that one text leaves open is closed by the next, and where backslashes escape a closing
tag. -/
theorem active_tags_of_template_iff (n : PlanNode) (id status : String) (r : Run)
    (plan? : Option Plan) :
    (activeTags (n.label id status) = n.labelTags status ↔ n.Contained id status) ∧
    ∀ t, r.table plan? = .ok t →
      activeTags t.title = [] ∧
      ∀ row ∈ t.rows, ∃ label kind s, ∃ key ∈ r.effectiveKeys,
        r.stateAt key = .ok s ∧ row = [label, kind, s.status.markup, Run.detail s] ∧
        activeTags label = [] ∧
        (activeTags (Run.detail s) = Run.detailTags s ↔ Run.DetailContained s) := by
  refine ⟨PlanNode.activeTags_label_iff, fun t h => ?_⟩
  obtain ⟨htitle, hrows⟩ := Run.table_parts h
  refine ⟨htitle ▸ Run.activeTags_title, fun row hrow => ?_⟩
  obtain ⟨kindOf, key, hkey, hr⟩ := hrows row hrow
  obtain ⟨label, kind, s, hs, hparts, hlabel⟩ := Run.activeTags_row hr
  exact ⟨label, kind, s, key, hkey, hs, hparts, hlabel, Run.activeTags_detail_iff s⟩

def styledState : NodeState := ⟨.failed, .null, some "[b]no[/b]", none, none⟩

def styled : Run where
  id := "[b]run[/b]"
  flowId := "flow"
  versionId := "version"
  entityId := none
  trigger := .byHand
  states := [("[dim]a", styledState)]
  instances := []
  revision := 2
  createdAt := .epoch2024
  updatedAt := .epoch2024

def styledNode : PlanNode := ⟨"[dim]a", .worker, some (some "[u]x"), none, none, none, none⟩

theorem styled_run_contained :
    activeTags (styledNode.label "[dim]a" "") = ["cyan", "/"] ∧
    ∃ t, styled.table none = .ok t ∧
      t.rows = [[escape "[dim]a", "", Status.failed.markup, Run.detail styledState]] ∧
      activeTags t.title = [] ∧ activeTags (escape "[dim]a") = [] ∧
      activeTags (Run.detail styledState) = ["red", "/"] := by
  have ht : styled.table none = .ok ⟨s!"Run {escape styled.id}",
      ["Node", "Type", "Status", "Output / error"],
      [[escape "[dim]a", "", Status.failed.markup, Run.detail styledState]]⟩ := rfl
  obtain ⟨hlabels, htable⟩ := active_tags_of_template_iff styledNode "[dim]a" "" styled none
  obtain ⟨htitle, hrows⟩ := htable _ ht
  obtain ⟨label, kind, s, key, hkey, hs, hparts, hlabel, hdetail⟩ :=
    hrows _ List.mem_cons_self
  obtain rfl : key = "[dim]a" := List.mem_singleton.mp hkey
  obtain rfl : s = styledState := Except.ok.inj hs.symm
  obtain rfl : escape "[dim]a" = label := (List.cons.inj hparts).1
  have hnode : styledNode.Contained "[dim]a" "" := by
    have hid : leavesOpen "[dim]a" = false := by cbv
    have htype : leavesOpen "[u]x" = false := by cbv
    refine ⟨⟨fun h => ?_, fun h => ?_⟩, fun h => absurd h.2.1 (by decide)⟩
    · simp [hid] at h
    · exact absurd (htype.symm.trans h.1) (by decide)
  have hcontained : Run.DetailContained styledState := by
    intro error he _
    obtain rfl := Option.some.inj he
    cbv
  exact ⟨hlabels.mpr hnode, _, ht, rfl, htitle, hlabel, hdetail.mpr hcontained⟩

example : styledNode.label "[dim]a" "" = "[cyan][W] \\[dim]a (\\[u]x)[/]" := by cbv

theorem label_tags_changed :
    let typed : PlanNode := ⟨"[red", .worker, some (some "x]"), none, none, none, none⟩
    let untyped : PlanNode := ⟨"a\\\\\\", .worker, none, none, none, none, none⟩
    typed.labelTags "" = ["cyan", "/"] ∧ untyped.labelTags "" = ["cyan", "/"] ∧
      activeTags (typed.label "[red" "") = ["cyan", "red (x", "/"] ∧
      activeTags (untyped.label "a\\\\\\" "") = ["cyan"] := by
  -- The type closes a bracket of the id, and the backslashes of an id escape the closing tag.
  cbv

end Workflow
