import Mathlib.Data.List.Basic

/-!
# Paths: `filepath.Clean`, `filepath.Join` and `filepath.Dir`

`filepath.Join` and `filepath.Dir` both pass their result through `filepath.Clean`, which
reads a slash-separated path element by element: it drops empty elements and `.`, lets `..`
remove the real element before it (or keeps it at the front of a relative path, or drops it
at the root), and writes what is left with single separators, `.` for nothing at all. The
model follows that loop on the list of elements, the newest kept element first
(`cleanElement`), which is `Clean`'s output buffer read one element at a time.

Only Unix paths are modelled: the separator is `/` and there is no volume name.

## Main results

* `pathElements_append_slash`: the elements of `a/b` are those of `a`, then those of `b`.
* `clean_append_element`: cleaning a path ending in a plain element is cleaning what comes
  before, then appending the element.
* `filepathJoin_element`: `Join(directory, name)` is a prefix fixed by the directory followed
  by `name`, for every plain element `name`, so joining one directory is injective on them.
-/

namespace Logit

/-! ### Elements -/

/-- The elements of a path, the text between its separators: `a//b/` has the elements `a`,
the empty element, `b` and the empty element. -/
def pathElements : List Char → List (List Char)
  | [] => [[]]
  | c :: cs =>
    if c = '/' then [] :: pathElements cs
    else
      match pathElements cs with
      | [] => [[c]]
      | e :: es => (c :: e) :: es

/-- A plain element: not empty, not `.` or `..`, and with no separator. -/
def IsElement (e : List Char) : Prop :=
  e ≠ [] ∧ e ≠ ['.'] ∧ e ≠ ['.', '.'] ∧ ∀ c ∈ e, c ≠ '/'

/-- A path that starts at the root. -/
def isRooted (path : List Char) : Bool := path.head? = some '/'

/-- Elements written with single separators between them. -/
def joinElements : List (List Char) → List Char
  | [] => []
  | [e] => e
  | e :: es => e ++ '/' :: joinElements es

/-! ### `Clean` -/

/-- One element of `Clean`'s loop, on the elements kept so far, the last one first: an empty
element or `.` is dropped; `..` removes the real element before it, and otherwise is kept
in a relative path and dropped at the root; any other element is kept. -/
def cleanElement (rooted : Bool) (kept : List (List Char)) (e : List Char) :
    List (List Char) :=
  if e = [] ∨ e = ['.'] then kept
  else if e = ['.', '.'] then
    match kept with
    | k :: ks => if k = ['.', '.'] then e :: kept else ks
    | [] => if rooted then [] else [e]
  else e :: kept

/-- `filepath.Clean(path)`, on the characters of the path. -/
def clean (path : List Char) : List Char :=
  let body := joinElements ((pathElements path).foldl (cleanElement (isRooted path)) []).reverse
  if isRooted path then '/' :: body else if body = [] then ['.'] else body

/-- `filepath.Join(directory, name)`: the elements from the first nonempty one on, joined by
separators and cleaned. -/
def filepathJoin (directory name : String) : String :=
  if directory.data = [] then (if name.data = [] then "" else ⟨clean name.data⟩)
  else ⟨clean (directory.data ++ '/' :: name.data)⟩

/-- `filepath.Dir(path)`: the path up to its last separator, cleaned. -/
def filepathDir (path : String) : String :=
  ⟨clean (path.data.reverse.dropWhile (· ≠ '/')).reverse⟩

/-! ### A plain element at the end -/

/-- Every path has an element, if only an empty one. -/
theorem pathElements_ne_nil : ∀ path, pathElements path ≠ []
  | [] => by simp [pathElements]
  | c :: cs => by
    rw [pathElements]
    split_ifs
    · simp
    · split <;> simp

/-- The elements of a path split at a separator are those of each side. -/
theorem pathElements_append_slash (xs ys : List Char) :
    pathElements (xs ++ '/' :: ys) = pathElements xs ++ pathElements ys := by
  induction xs with
  | nil => simp [pathElements]
  | cons c xs ih =>
    by_cases hc : c = '/'
    · simp [pathElements, hc, ih]
    · obtain ⟨e, es, he⟩ := List.exists_cons_of_ne_nil (pathElements_ne_nil xs)
      rw [List.cons_append, pathElements.eq_2, pathElements.eq_2, if_neg hc, if_neg hc, ih, he]
      rfl

/-- A text without separators is one element. -/
theorem pathElements_of_forall_ne {e : List Char} (h : ∀ c ∈ e, c ≠ '/') :
    pathElements e = [e] := by
  induction e with
  | nil => rfl
  | cons c e ih =>
    rw [pathElements, if_neg (h c (List.mem_cons_self _ _)),
      ih fun c hc => h c (List.mem_cons_of_mem _ hc)]

/-- A plain element is kept. -/
theorem cleanElement_of_isElement (rooted : Bool) (kept : List (List Char)) {e : List Char}
    (he : IsElement e) : cleanElement rooted kept e = e :: kept := by
  obtain ⟨h₀, h₁, h₂, -⟩ := he
  simp [cleanElement, h₀, h₁, h₂]

/-- Writing one more element. -/
theorem joinElements_append_singleton (es : List (List Char)) (e : List Char) :
    joinElements (es ++ [e]) = if es = [] then e else joinElements es ++ '/' :: e := by
  induction es with
  | nil => rfl
  | cons a es ih =>
    cases es with
    | nil => rfl
    | cons b es =>
      rw [if_neg (List.cons_ne_nil _ _)] at ih
      show a ++ '/' :: joinElements (b :: es ++ [e]) =
        if a :: b :: es = [] then e else (a ++ '/' :: joinElements (b :: es)) ++ '/' :: e
      rw [ih, if_neg (List.cons_ne_nil _ _)]
      simp

/-- **A plain element at the end.** Cleaning `directory/e` cleans the directory and appends
the element: the result is a prefix fixed by the directory, then `e`. -/
theorem clean_append_element (directory : List Char) (hd : directory ≠ []) :
    ∃ pre : List Char, ∀ e, IsElement e → clean (directory ++ '/' :: e) = pre ++ e := by
  have hroot : ∀ e, isRooted (directory ++ '/' :: e) = isRooted directory := by
    obtain ⟨c, cs, rfl⟩ := List.exists_cons_of_ne_nil hd
    exact fun _ => rfl
  let kept := (pathElements directory).foldl (cleanElement (isRooted directory)) []
  let mid := if kept = [] then [] else joinElements kept.reverse ++ ['/']
  refine ⟨(if isRooted directory then ['/'] else []) ++ mid, fun e he => ?_⟩
  have helts : (pathElements (directory ++ '/' :: e)).foldl
      (cleanElement (isRooted directory)) [] = e :: kept := by
    rw [pathElements_append_slash, pathElements_of_forall_ne he.2.2.2, List.foldl_append,
      List.foldl_cons, List.foldl_nil, cleanElement_of_isElement _ _ he]
  have hjoin : joinElements (e :: kept).reverse = mid ++ e := by
    rw [List.reverse_cons, joinElements_append_singleton]
    simp only [List.reverse_eq_nil_iff, mid]
    split_ifs <;> simp
  unfold clean
  simp only [hroot, helts, hjoin]
  by_cases hr : isRooted directory <;> simp [hr, he.1]

/-- **Joining a name.** `Join(directory, name)` is a prefix fixed by the directory followed by
`name`, for every plain element `name`. -/
theorem filepathJoin_element (directory : String) :
    ∃ pre : List Char, ∀ name : String, IsElement name.data →
      (filepathJoin directory name).data = pre ++ name.data := by
  by_cases hd : directory.data = []
  · refine ⟨[], fun name hn => ?_⟩
    have hclean : clean name.data = name.data := by
      have hnr : isRooted name.data = false := by
        obtain ⟨c, cs, hcs⟩ := List.exists_cons_of_ne_nil hn.1
        have hc : c ≠ '/' := hn.2.2.2 c (hcs ▸ List.mem_cons_self _ _)
        simp [hcs, isRooted, hc]
      simp only [clean, hnr, pathElements_of_forall_ne hn.2.2.2, List.foldl_cons,
        List.foldl_nil, cleanElement_of_isElement _ _ hn, List.reverse_singleton, joinElements,
        Bool.false_eq_true, if_false, if_neg hn.1]
    simp [filepathJoin, hd, hn.1, hclean]
  · obtain ⟨pre, hpre⟩ := clean_append_element directory.data hd
    exact ⟨pre, fun name hn => by simp [filepathJoin, hd, hpre _ hn]⟩

/-- Joining one directory is injective on plain elements. -/
theorem filepathJoin_inj {directory a b : String} (ha : IsElement a.data) (hb : IsElement b.data)
    (h : filepathJoin directory a = filepathJoin directory b) : a = b := by
  obtain ⟨pre, hpre⟩ := filepathJoin_element directory
  have := congrArg String.data h
  rw [hpre a ha, hpre b hb] at this
  exact String.ext (List.append_cancel_left this)

end Logit
