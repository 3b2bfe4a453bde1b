import Mathlib.Data.List.Basic

/-!
# Lexical paths

`path/filepath` on Unix.  `Clean` is read element by element; a cleaned path is
`render rooted es` for elements in normal form, and cleaning it again changes nothing.
-/

namespace BanyanGuard.Filepath

abbrev Segment := List Char

/-- The `..` element. -/
def dotdot : Segment := ['.', '.']

/-- Put a character in front of the first element. -/
def consFirst (c : Char) : List Segment → List Segment
  | [] => [[c]]
  | e :: es => (c :: e) :: es

/-- The elements of a path, split at every `/`; empty elements are kept. -/
def elements : List Char → List Segment
  | [] => [[]]
  | c :: cs => if c = '/' then [] :: elements cs else consFirst c (elements cs)

/-- Elements joined with `/`. -/
def joinElements : List Segment → List Char
  | [] => []
  | [e] => e
  | e :: es => e ++ '/' :: joinElements es

theorem elements_ne_nil (p : List Char) : elements p ≠ [] := by
  cases p with
  | nil => simp [elements]
  | cons c cs =>
    unfold elements
    split
    · simp
    · cases elements cs <;> simp [consFirst]

theorem consFirst_append {xs : List Segment} (nonempty : xs ≠ []) (c : Char) (ys : List Segment) :
    consFirst c (xs ++ ys) = consFirst c xs ++ ys := by
  cases xs with
  | nil => contradiction
  | cons x xs => rfl

theorem elements_append_slash (a b : List Char) :
    elements (a ++ '/' :: b) = elements a ++ elements b := by
  induction a with
  | nil => simp [elements]
  | cons c cs inductionHypothesis =>
    simp only [List.cons_append, elements]
    split
    · simp [inductionHypothesis]
    · exact (congrArg (consFirst c) inductionHypothesis).trans
        (consFirst_append (elements_ne_nil cs) c _)

theorem elements_of_slash_not_mem {a : List Char} (noSlash : '/' ∉ a) : elements a = [a] := by
  induction a with
  | nil => rfl
  | cons c cs inductionHypothesis =>
    simp only [List.mem_cons, not_or] at noSlash
    simp [elements, Ne.symm noSlash.1, inductionHypothesis noSlash.2, consFirst]

theorem joinElements_cons_cons (e f : Segment) (es : List Segment) :
    joinElements (e :: f :: es) = e ++ '/' :: joinElements (f :: es) := rfl

theorem joinElements_append {xs ys : List Segment} (xsNonempty : xs ≠ [])
    (ysNonempty : ys ≠ []) :
    joinElements (xs ++ ys) = joinElements xs ++ '/' :: joinElements ys := by
  induction xs with
  | nil => contradiction
  | cons x xs inductionHypothesis =>
    cases xs with
    | nil =>
      cases ys with
      | nil => contradiction
      | cons y ys => rfl
    | cons x' xs =>
      rw [List.cons_append, List.cons_append, joinElements_cons_cons, ← List.cons_append,
        inductionHypothesis (List.cons_ne_nil _ _), joinElements_cons_cons]
      simp

theorem elements_joinElements {es : List Segment} (nonempty : es ≠ [])
    (noSlash : ∀ e ∈ es, '/' ∉ e) : elements (joinElements es) = es := by
  induction es with
  | nil => contradiction
  | cons e es inductionHypothesis =>
    cases es with
    | nil => simpa [joinElements] using elements_of_slash_not_mem (noSlash e (by simp))
    | cons f es =>
      rw [joinElements_cons_cons, elements_append_slash,
        elements_of_slash_not_mem (noSlash e (by simp)),
        inductionHypothesis (List.cons_ne_nil _ _) (fun g mem => noSlash g (by simp [mem]))]
      rfl

theorem slash_not_mem_elements (p : List Char) : ∀ e ∈ elements p, '/' ∉ e := by
  induction p with
  | nil => simp [elements]
  | cons c cs inductionHypothesis =>
    unfold elements
    split
    · simpa using inductionHypothesis
    · rename_i notSlash
      cases splitCs : elements cs with
      | nil => simp [consFirst, Ne.symm notSlash]
      | cons f fs =>
        rw [splitCs] at inductionHypothesis
        intro e mem
        simp only [consFirst, List.mem_cons] at mem
        rcases mem with rfl | mem
        · simp [Ne.symm notSlash, inductionHypothesis f (by simp)]
        · exact inductionHypothesis e (by simp [mem])

/-- One element of `Clean`'s loop; `stack` holds the output elements, the last first. -/
def cleanStep (rooted : Bool) (stack : List Segment) (e : Segment) : List Segment :=
  if e = [] ∨ e = ['.'] then stack
  else if e = dotdot then
    match stack with
    | top :: rest => if top = dotdot then dotdot :: stack else rest
    | [] => if rooted then [] else [dotdot]
  else e :: stack

/-- A cleaned path, from whether it is rooted and its elements. -/
def render (rooted : Bool) (es : List Segment) : List Char :=
  if rooted then '/' :: joinElements es else if es = [] then ['.'] else joinElements es

/-- `filepath.Clean`, on characters. -/
def cleanChars (p : List Char) : List Char :=
  let rooted := p.head? == some '/'
  render rooted ((elements p).foldl (cleanStep rooted) []).reverse

/-- An element that `Clean` keeps as it is. -/
def Plain (e : Segment) : Prop := e ≠ [] ∧ e ≠ ['.'] ∧ e ≠ dotdot ∧ '/' ∉ e

/-- `Clean`'s stack: plain elements over the `..` it could not remove, none under the root. -/
def StackShape (rooted : Bool) (stack : List Segment) : Prop :=
  ∃ k rest, stack = rest ++ List.replicate k dotdot ∧ (∀ e ∈ rest, Plain e) ∧
    (rooted → k = 0)

/-- The elements of a cleaned path. -/
def Normal (rooted : Bool) (es : List Segment) : Prop := StackShape rooted es.reverse

theorem stackShape_nil (rooted : Bool) : StackShape rooted [] :=
  ⟨0, [], rfl, by simp, fun _ => rfl⟩

theorem cleanStep_stackShape {rooted : Bool} {stack : List Segment} {e : Segment}
    (noSlash : '/' ∉ e) (shape : StackShape rooted stack) :
    StackShape rooted (cleanStep rooted stack e) := by
  obtain ⟨k, rest, rfl, plain, rootedNone⟩ := shape
  unfold cleanStep
  split
  · exact ⟨k, rest, rfl, plain, rootedNone⟩
  split
  · rename_i isDotdot
    split
    · rename_i top more stackEq
      split
      · rename_i topDotdot
        cases rest with
        | cons r rs => simp_all [Plain]
        | nil =>
          cases k with
          | zero => simp at stackEq
          | succ k =>
            refine ⟨k + 2, [], ?_, by simp,
              fun rooted => by simp [rootedNone rooted] at stackEq⟩
            simp only [List.nil_append, List.replicate_succ, List.cons.injEq] at stackEq
            obtain ⟨rfl, rfl⟩ := stackEq
            simp [List.replicate_succ]
      · rename_i topPlain
        cases rest with
        | nil =>
          cases k with
          | zero => simp at stackEq
          | succ k => simp_all [List.replicate_succ]
        | cons r rs =>
          simp only [List.cons_append, List.cons.injEq] at stackEq
          obtain ⟨rfl, rfl⟩ := stackEq
          exact ⟨k, rs, rfl, fun e mem => plain e (by simp [mem]), rootedNone⟩
    · rename_i stackEmpty
      split
      · exact stackShape_nil rooted
      · exact ⟨1, [], rfl, by simp, by simp_all⟩
  · rename_i notDotOrEmpty notDotdot
    refine ⟨k, e :: rest, rfl, ?_, rootedNone⟩
    simp only [List.mem_cons, forall_eq_or_imp]
    exact ⟨⟨fun h => notDotOrEmpty (.inl h), fun h => notDotOrEmpty (.inr h), notDotdot,
      noSlash⟩, plain⟩

theorem foldl_cleanStep_stackShape (rooted : Bool) (es : List Segment)
    (noSlash : ∀ e ∈ es, '/' ∉ e) :
    ∀ {stack}, StackShape rooted stack →
      StackShape rooted (es.foldl (cleanStep rooted) stack) := by
  induction es with
  | nil => exact id
  | cons e es inductionHypothesis =>
    intro stack shape
    exact inductionHypothesis (fun f mem => noSlash f (by simp [mem]))
      (cleanStep_stackShape (noSlash e (by simp)) shape)

theorem cleanChars_eq_render (p : List Char) :
    ∃ rooted es, Normal rooted es ∧ cleanChars p = render rooted es := by
  refine ⟨_, _, ?_, rfl⟩
  rw [Normal, List.reverse_reverse]
  exact foldl_cleanStep_stackShape _ _ (slash_not_mem_elements p) (stackShape_nil _)

theorem normal_iff {rooted : Bool} {es : List Segment} :
    Normal rooted es ↔
      ∃ k rest, es = List.replicate k dotdot ++ rest ∧ (∀ e ∈ rest, Plain e) ∧
        (rooted → k = 0) := by
  constructor
  · rintro ⟨k, rest, reversed, plain, rootedNone⟩
    refine ⟨k, rest.reverse, ?_, by simpa using plain, rootedNone⟩
    rw [← List.reverse_reverse es, reversed]
    simp
  · rintro ⟨k, rest, rfl, plain, rootedNone⟩
    exact ⟨k, rest.reverse, by simp, by simpa using plain, rootedNone⟩

theorem Normal.element {rooted : Bool} {es : List Segment} (normal : Normal rooted es) :
    ∀ e ∈ es, e ≠ [] ∧ '/' ∉ e ∧ e.head? ≠ some '/' ∧ e ≠ ['.'] := by
  obtain ⟨k, rest, rfl, plain, -⟩ := normal_iff.mp normal
  intro e mem
  rcases List.mem_append.mp mem with dots | inRest
  · rw [List.eq_of_mem_replicate dots]; simp [dotdot]
  · obtain ⟨nonempty, notDot, -, noSlash⟩ := plain e inRest
    refine ⟨nonempty, noSlash, fun head => noSlash ?_, notDot⟩
    cases e with
    | nil => contradiction
    | cons c cs => simp_all

theorem foldl_cleanStep_dotdots (j k : Nat) :
    (List.replicate k dotdot).foldl (cleanStep false) (List.replicate j dotdot) =
      List.replicate (j + k) dotdot := by
  induction k generalizing j with
  | zero => rfl
  | succ k inductionHypothesis =>
    have step :
        cleanStep false (List.replicate j dotdot) dotdot = List.replicate (j + 1) dotdot := by
      cases j <;> simp [cleanStep, dotdot, List.replicate_succ]
    rw [List.replicate_succ, List.foldl_cons, step, inductionHypothesis]
    congr 1
    omega

theorem foldl_cleanStep_plain (rooted : Bool) (rest : List Segment)
    (plain : ∀ e ∈ rest, Plain e) (stack : List Segment) :
    rest.foldl (cleanStep rooted) stack = rest.reverse ++ stack := by
  induction rest generalizing stack with
  | nil => rfl
  | cons e rest inductionHypothesis =>
    obtain ⟨nonempty, notDot, notDotdot, -⟩ := plain e (by simp)
    rw [List.foldl_cons, inductionHypothesis (fun f mem => plain f (by simp [mem]))]
    simp [cleanStep, nonempty, notDot, notDotdot]

theorem foldl_cleanStep_normal {rooted : Bool} {es : List Segment} (normal : Normal rooted es) :
    es.foldl (cleanStep rooted) [] = es.reverse := by
  obtain ⟨k, rest, rfl, plain, rootedNone⟩ := normal_iff.mp normal
  have dots : (List.replicate k dotdot).foldl (cleanStep rooted) [] = List.replicate k dotdot := by
    cases rooted with
    | false => simpa using foldl_cleanStep_dotdots 0 k
    | true => simp [rootedNone rfl]
  rw [List.foldl_append, dots, foldl_cleanStep_plain rooted rest plain]
  simp

theorem foldl_elements_render {rooted : Bool} {es : List Segment} (normal : Normal rooted es) :
    (elements (render rooted es)).foldl (cleanStep rooted) [] = es.reverse := by
  have noSlash : ∀ e ∈ es, '/' ∉ e := fun e mem => (normal.element e mem).2.1
  unfold render
  cases rooted with
  | true =>
    by_cases empty : es = []
    · subst empty; rfl
    · simp only [if_true, elements, if_pos, List.foldl_cons]
      rw [elements_joinElements empty noSlash]
      exact foldl_cleanStep_normal normal
  | false =>
    by_cases empty : es = []
    · subst empty; rfl
    · simp only [Bool.false_eq_true, if_false, if_neg empty]
      rw [elements_joinElements empty noSlash]
      exact foldl_cleanStep_normal normal

theorem head_render {rooted : Bool} {es : List Segment} (normal : Normal rooted es) :
    ((render rooted es).head? == some '/') = rooted := by
  cases rooted with
  | true => rfl
  | false =>
    cases es with
    | nil => rfl
    | cons e es =>
      obtain ⟨nonempty, -, notSlash, -⟩ := normal.element e (by simp)
      cases e with
      | nil => contradiction
      | cons c cs =>
        cases es with
        | nil => simpa [render, joinElements] using notSlash
        | cons f fs => simpa [render, joinElements] using notSlash

theorem cleanChars_render {rooted : Bool} {es : List Segment} (normal : Normal rooted es) :
    cleanChars (render rooted es) = render rooted es := by
  simp only [cleanChars, head_render normal, foldl_elements_render normal, List.reverse_reverse]

theorem cleanChars_cleanChars (p : List Char) : cleanChars (cleanChars p) = cleanChars p := by
  obtain ⟨rooted, es, normal, cleaned⟩ := cleanChars_eq_render p
  rw [cleaned, cleanChars_render normal]

theorem Normal.render_ne_nil {rooted : Bool} {es : List Segment} (normal : Normal rooted es) :
    render rooted es ≠ [] := by
  unfold render
  split
  · simp
  · split
    · simp
    · rename_i nonempty
      obtain ⟨e, es, rfl⟩ := List.exists_cons_of_ne_nil nonempty
      have eNonempty := (normal.element e (by simp)).1
      cases es <;> simp [joinElements, eNonempty]

theorem elements_render {rooted : Bool} {es : List Segment} (normal : Normal rooted es) :
    elements (render rooted es) =
      if es = [] then (if rooted then [[], []] else [['.']])
      else (if rooted then [[]] else []) ++ es := by
  have noSlash : ∀ e ∈ es, '/' ∉ e := fun e mem => (normal.element e mem).2.1
  by_cases empty : es = []
  · subst empty; cases rooted <;> rfl
  · cases rooted <;>
      simp [render, empty, elements, elements_joinElements empty noSlash]

theorem render_inj {rooted : Bool} {es es' : List Segment} (normal : Normal rooted es)
    (normal' : Normal rooted es') (same : render rooted es = render rooted es') : es = es' := by
  have elementsSame := congrArg (fun p => (elements p).foldl (cleanStep rooted) []) same
  simpa [foldl_elements_render normal, foldl_elements_render normal'] using elementsSame

theorem render_append {rooted : Bool} {es rest : List Segment} (esNonempty : es ≠ [])
    (restNonempty : rest ≠ []) :
    render rooted (es ++ rest) = render rooted es ++ '/' :: joinElements rest := by
  have nonempty : es ++ rest ≠ [] := by simp [esNonempty]
  cases rooted <;> simp [render, esNonempty, nonempty, joinElements_append esNonempty restNonempty]

theorem eq_append_of_render_prefix {rootedC rootedT : Bool} {esC esT : List Segment}
    (normalC : Normal rootedC esC) (normalT : Normal rootedT esT)
    (startsWith : render rootedC esC ++ ['/'] <+: render rootedT esT) :
    esC ≠ [] ∧ rootedT = rootedC ∧ ∃ rest, rest ≠ [] ∧ esT = esC ++ rest := by
  obtain ⟨suffix, joined⟩ := startsWith
  rw [List.append_assoc, List.singleton_append] at joined
  have sameRoot : rootedT = rootedC := by
    rw [← head_render normalT, ← head_render normalC, ← joined,
      List.head?_append_of_ne_nil _ normalC.render_ne_nil]
  subst sameRoot
  have split := congrArg elements joined
  rw [elements_append_slash, elements_render normalC, elements_render normalT] at split
  have suffixNonempty := elements_ne_nil suffix
  have noDot : ['.'] ∉ esT := fun mem => (normalT.element _ mem).2.2.2 rfl
  have noEmpty : [] ∉ esT := fun mem => (normalT.element _ mem).1 rfl
  have noExtra : ∀ {x : List Segment}, x ++ elements suffix ≠ x := fun same =>
    suffixNonempty (by simpa using congrArg List.length same)
  by_cases emptyC : esC = [] <;> by_cases emptyT : esT = [] <;> cases rootedT <;>
    simp only [emptyC, emptyT, if_true, if_false, Bool.false_eq_true, List.nil_append] at split
  · exact absurd split noExtra
  · exact absurd split noExtra
  · exact absurd (split ▸ List.mem_append_left _ (List.mem_singleton_self _)) noDot
  · simp only [List.cons_append, List.nil_append, List.cons.injEq, true_and] at split
    exact absurd (split ▸ List.mem_cons_self _ _) noEmpty
  · have lengths := congrArg List.length split
    simp only [List.length_append, List.length_singleton] at lengths
    have := List.length_pos.mpr emptyC
    have := List.length_pos.mpr suffixNonempty
    omega
  · have lengths := congrArg List.length split
    simp only [List.length_append, List.length_singleton, List.length_cons,
      List.length_nil] at lengths
    have := List.length_pos.mpr emptyC
    have := List.length_pos.mpr suffixNonempty
    omega
  · exact ⟨emptyC, rfl, _, suffixNonempty, split.symm⟩
  · simp only [List.cons_append, List.nil_append, List.cons.injEq, true_and] at split
    exact ⟨emptyC, rfl, _, suffixNonempty, split.symm⟩

/-- Everything up to and including the last `/`; empty when there is none. -/
def throughLastSlash (p : List Char) : List Char := (p.reverse.dropWhile (· ≠ '/')).reverse

/-- `filepath.Dir`, on characters: `Clean` of the path up to its last separator. -/
def dirChars (p : List Char) : List Char := cleanChars (throughLastSlash p)

theorem throughLastSlash_of_slash_not_mem {p : List Char} (noSlash : '/' ∉ p) :
    throughLastSlash p = [] := by
  have skip : ∀ c ∈ p.reverse, decide (c ≠ '/') = true := fun c mem =>
    decide_eq_true fun h => noSlash (h ▸ List.mem_reverse.mp mem)
  unfold throughLastSlash
  rw [← List.append_nil p.reverse, List.dropWhile_append_of_pos skip]
  rfl

theorem throughLastSlash_append_slash (x : List Char) {y : List Char} (noSlash : '/' ∉ y) :
    throughLastSlash (x ++ '/' :: y) = x ++ ['/'] := by
  have skip : ∀ c ∈ y.reverse, decide (c ≠ '/') = true := fun c mem =>
    decide_eq_true fun h => noSlash (h ▸ List.mem_reverse.mp mem)
  unfold throughLastSlash
  rw [List.reverse_append, List.reverse_cons, List.append_assoc, List.singleton_append,
    List.dropWhile_append_of_pos skip, List.dropWhile_cons_of_neg (by simp)]
  simp

theorem cleanChars_append_slash {p : List Char} (nonempty : p ≠ []) :
    cleanChars (p ++ ['/']) = cleanChars p := by
  have sameHead : (p ++ ['/']).head? = p.head? := List.head?_append_of_ne_nil _ nonempty
  simp only [cleanChars, sameHead, elements_append_slash, elements, List.foldl_append,
    List.foldl_cons, List.foldl_nil]
  simp [cleanStep]

theorem StackShape.tail {rooted : Bool} {stack : List Segment} (shape : StackShape rooted stack) :
    StackShape rooted stack.tail := by
  obtain ⟨k, rest, rfl, plain, rootedNone⟩ := shape
  cases rest with
  | cons r rs => exact ⟨k, rs, rfl, fun e mem => plain e (by simp [mem]), rootedNone⟩
  | nil =>
    refine ⟨k - 1, [], ?_, by simp, fun rooted => by simp [rootedNone rooted]⟩
    cases k <;> simp [List.replicate_succ]

theorem Normal.dropLast {rooted : Bool} {es : List Segment} (normal : Normal rooted es) :
    Normal rooted es.dropLast := by
  have reversed : es.dropLast.reverse = es.reverse.tail := by
    rw [← List.reverse_reverse es, List.dropLast_reverse]; simp
  unfold Normal at normal ⊢
  rw [reversed]
  exact normal.tail

theorem dirChars_render {rooted : Bool} {es : List Segment} (normal : Normal rooted es)
    (nonempty : es ≠ []) : dirChars (render rooted es) = render rooted es.dropLast := by
  obtain ⟨init, last, rfl⟩ := (List.eq_nil_or_concat es).resolve_left nonempty
  rw [List.concat_eq_append] at normal ⊢
  have lastNoSlash : '/' ∉ last := (normal.element last (by simp)).2.1
  rw [List.dropLast_concat]
  by_cases initEmpty : init = []
  · subst initEmpty
    cases rooted with
    | true =>
      simp only [render, if_true, List.nil_append, joinElements, dirChars]
      rw [show '/' :: last = [] ++ '/' :: last from rfl,
        throughLastSlash_append_slash _ lastNoSlash]
      rfl
    | false =>
      simp only [render, List.nil_append, joinElements, dirChars, Bool.false_eq_true, if_false,
        List.cons_ne_nil, throughLastSlash_of_slash_not_mem lastNoSlash]
      rfl
  · have initNormal : Normal rooted init := by simpa using normal.dropLast
    rw [dirChars, render_append initEmpty (List.cons_ne_nil _ _),
      show joinElements [last] = last from rfl,
      throughLastSlash_append_slash _ lastNoSlash,
      cleanChars_append_slash initNormal.render_ne_nil, cleanChars_render initNormal]

/-- `filepath.Clean`. -/
def clean (p : String) : String := ⟨cleanChars p.data⟩

/-- `filepath.Dir`. -/
def dir (p : String) : String := ⟨dirChars p.data⟩

/-- `filepath.Join`: `Clean` of the elements from the first non-empty one, joined by `/`. -/
def join : List String → String
  | [] => ""
  | e :: rest => if e = "" then join rest else clean (String.intercalate "/" (e :: rest))

theorem joinElements_cons (e : Segment) (es : List Segment) :
    joinElements (e :: es) = e ++ es.flatMap fun f => '/' :: f := by
  induction es generalizing e with
  | nil => simp [joinElements]
  | cons f es inductionHypothesis => rw [joinElements_cons_cons, inductionHypothesis]; simp

theorem intercalate_go_data (acc : String) (es : List String) :
    (String.intercalate.go acc "/" es).data = acc.data ++ es.flatMap fun e => '/' :: e.data := by
  induction es generalizing acc with
  | nil => simp [String.intercalate.go]
  | cons e es inductionHypothesis =>
    simp [String.intercalate.go, inductionHypothesis, show "/".data = ['/'] from rfl]

theorem intercalate_data (es : List String) :
    (String.intercalate "/" es).data = joinElements (es.map String.data) := by
  cases es with
  | nil => rfl
  | cons e es => simp [String.intercalate, intercalate_go_data, joinElements_cons, List.flatMap_map]

theorem join_cons_eq (home : String) :
    ∃ rooted base, Normal rooted base ∧ ∀ (e : String) (es : List String), e ≠ "" →
      (∀ f ∈ e :: es, '/' ∉ f.data) →
      (join (home :: e :: es)).data =
        render rooted
          (((e :: es).map String.data).foldl (cleanStep rooted) base.reverse).reverse := by
  refine ⟨home.data.head? == some '/',
    ((elements home.data).foldl (cleanStep (home.data.head? == some '/')) []).reverse, ?_,
    fun e es nonempty noSlash => ?_⟩
  · rw [Normal, List.reverse_reverse]
    exact foldl_cleanStep_stackShape _ _ (slash_not_mem_elements _) (stackShape_nil _)
  have noSlash' : ∀ f ∈ (e :: es).map String.data, '/' ∉ f := by simpa using noSlash
  have split := elements_joinElements (List.cons_ne_nil _ _) noSlash'
  by_cases homeEmpty : home = ""
  · subst homeEmpty
    obtain ⟨c, cs, eData⟩ : ∃ c cs, e.data = c :: cs := by
      obtain ⟨eData⟩ := e
      cases eData with
      | nil => exact absurd rfl nonempty
      | cons c cs => exact ⟨c, cs, rfl⟩
    have notRoot : (c == '/') = false :=
      beq_eq_false_iff_ne.mpr fun root => noSlash' e.data (by simp) (by simp [eData, root])
    have head : (joinElements (e.data :: es.map String.data)).head? = some c := by
      cases es <;> simp [joinElements, eData]
    simp [join, nonempty, clean, cleanChars, intercalate_data, head, notRoot, split, elements,
      cleanStep]
  · have homeData : home.data ≠ [] := fun empty => homeEmpty (String.ext empty)
    simp only [join, homeEmpty, if_false, clean, intercalate_data, List.map_cons, cleanChars,
      joinElements_cons_cons, List.head?_append_of_ne_nil _ homeData, elements_append_slash, split,
      List.foldl_append, List.reverse_reverse]

/-- `filepath.Base`: the last element once trailing slashes are dropped. -/
def base (p : String) : String :=
  if p = "" then "."
  else
    let last := ((p.data.reverse.dropWhile (· = '/')).takeWhile (· ≠ '/')).reverse
    if last = [] then "/" else ⟨last⟩

/-- `strings.HasPrefix`. -/
def hasPrefix (s pre : String) : Bool := pre.data.isPrefixOf s.data

/-- `p` is clean and starts with `root/`. -/
def StrictlyBelow (root p : String) : Prop := clean p = p ∧ (root ++ "/").data <+: p.data

theorem clean_clean (p : String) : clean (clean p) = clean p :=
  congrArg String.mk (cleanChars_cleanChars p.data)

theorem join_pair {a : String} (nonempty : a ≠ "") (b : String) :
    join [a, b] = clean (a ++ "/" ++ b) := by
  simp [join, nonempty, String.intercalate, String.intercalate.go]

theorem join_pair_empty (b : String) : join ["", b] = if b = "" then "" else clean b := by
  by_cases empty : b = "" <;> simp [join, empty, String.intercalate, String.intercalate.go]

theorem foldl_cleanStep_plain_normal {rooted : Bool} {base : List Segment}
    (normal : Normal rooted base) {es : List Segment} (plain : ∀ e ∈ es, Plain e) :
    (es.foldl (cleanStep rooted) base.reverse).reverse = base ++ es ∧
      Normal rooted (base ++ es) := by
  have pushed := foldl_cleanStep_plain rooted es plain base.reverse
  refine ⟨by simp [pushed], ?_⟩
  have shape := foldl_cleanStep_stackShape rooted es (fun e mem => (plain e mem).2.2.2) normal
  rwa [pushed, ← List.reverse_append] at shape

theorem join_render_plain {rooted : Bool} {es : List Segment} (normal : Normal rooted es)
    {e : String} (plain : Plain e.data) :
    (join [⟨render rooted es⟩, e]).data = render rooted (es ++ [e.data]) := by
  have nonempty : (⟨render rooted es⟩ : String) ≠ "" :=
    fun empty => normal.render_ne_nil (congrArg String.data empty)
  have pushed := (foldl_cleanStep_plain_normal normal (List.forall_mem_singleton.mpr plain)).1
  simp only [List.foldl_cons, List.foldl_nil] at pushed
  simp only [join_pair nonempty, clean, String.data_append, show "/".data = ['/'] from rfl,
    List.append_assoc, List.singleton_append, cleanChars,
    List.head?_append_of_ne_nil _ normal.render_ne_nil, head_render normal, elements_append_slash,
    elements_of_slash_not_mem plain.2.2.2, List.foldl_append, foldl_elements_render normal,
    List.foldl_cons, List.foldl_nil, pushed]

theorem not_hasPrefix_dot (root : String) : hasPrefix "." (root ++ "/") = false := by
  obtain ⟨rootData⟩ := root
  cases rootData with
  | nil => rfl
  | cons c rest =>
    simp only [hasPrefix, String.append, List.cons_append, Bool.eq_false_iff, ne_eq,
      List.isPrefixOf_iff_prefix]
    intro isPrefix
    have := isPrefix.length_le
    simp at this

theorem clean_join_of_hasPrefix {a b root : String}
    (checked : hasPrefix (clean (join [a, b])) (root ++ "/")) :
    clean (join [a, b]) = join [a, b] := by
  by_cases empty : a = ""
  · subst empty
    by_cases bEmpty : b = ""
    · simp [join_pair_empty, bEmpty, show clean "" = "." from rfl, not_hasPrefix_dot] at checked
    · simp [join_pair_empty, bEmpty, clean_clean]
  · rw [join_pair empty, clean_clean]

theorem strictlyBelow_of_hasPrefix {root x : String}
    (checked : hasPrefix (clean x) (clean root ++ "/")) : StrictlyBelow (clean root) (clean x) :=
  ⟨clean_clean x, by simpa [hasPrefix] using checked⟩

theorem dir_of_strictlyBelow {root p : String} (rootClean : clean root = root)
    (below : StrictlyBelow root p) : dir p = root ∨ StrictlyBelow root (dir p) := by
  obtain ⟨rootData⟩ := root
  obtain ⟨pData⟩ := p
  obtain ⟨pClean, startsWith⟩ := below
  obtain ⟨rootedC, esC, normalC, cleanedC⟩ := cleanChars_eq_render rootData
  obtain ⟨rootedT, esT, normalT, cleanedT⟩ := cleanChars_eq_render pData
  have rootEq : rootData = render rootedC esC :=
    (congrArg String.data rootClean).symm.trans cleanedC
  have pEq : pData = render rootedT esT := (congrArg String.data pClean).symm.trans cleanedT
  subst rootEq pEq
  obtain ⟨esCNonempty, rfl, rest, restNonempty, rfl⟩ :=
    eq_append_of_render_prefix normalC normalT startsWith
  have dirEq :
      dir ⟨render rootedT (esC ++ rest)⟩ = ⟨render rootedT (esC ++ rest.dropLast)⟩ := by
    simp [dir, dirChars_render normalT (by simp [esCNonempty]),
      List.dropLast_append_of_ne_nil _ restNonempty]
  rw [dirEq]
  by_cases lastOnly : rest.dropLast = []
  · left; simp [lastOnly]
  · right
    have normalDir : Normal rootedT (esC ++ rest.dropLast) := by
      simpa [List.dropLast_append_of_ne_nil _ restNonempty] using normalT.dropLast
    refine ⟨congrArg String.mk (cleanChars_render normalDir), ?_⟩
    rw [render_append esCNonempty lastOnly]
    exact ⟨joinElements rest.dropLast, by simp [String.append]⟩

end BanyanGuard.Filepath