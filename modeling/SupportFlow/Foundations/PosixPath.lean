import SupportFlow.Foundations.Python

/-!
# POSIX paths

`str.split` on one character, and Python's `PurePosixPath`.

Parsing a path drops the empty segments and the segments `.` of its text, so that different texts
may be the same path. A relative text without such segments is the text of its path
(`PurePosixPath.asPosix_parse`), and is told from any other by its parts
(`PurePosixPath.plainSegments_injective`). Whether a text has a given segment shows in the text
between two slashes (`mem_split_iff`).
-/

universe u

/-- A segment is what stands between two separators, once the list has one at either end. -/
theorem List.mem_splitOn_iff {α : Type u} [DecidableEq α] {sep : α} {segment l : List α} :
    segment ∈ l.splitOn sep ↔
      sep ∉ segment ∧ sep :: (segment ++ [sep]) <:+: sep :: (l ++ [sep]) := by
  constructor
  · -- By induction on the length: the list has no separator, or is split at its first one.
    intro h
    induction hn : l.length using Nat.strong_induction_on generalizing l with
    | _ n ih =>
    by_cases hsep : sep ∈ l
    · obtain ⟨a, b, rfl, ha⟩ := List.eq_append_cons_of_mem hsep
      rw [List.splitOn_append_cons_self_of_not_mem ha, List.mem_cons] at h
      rcases h with rfl | h
      · refine ⟨ha, [], b ++ [sep], ?_⟩
        simp
      · have hlt : b.length < n := by
          rw [← hn, List.length_append, List.length_cons]
          omega
        obtain ⟨hmem, hinfix⟩ := ih b.length hlt h rfl
        refine ⟨hmem, hinfix.trans ⟨sep :: a, [], ?_⟩⟩
        simp
    · rw [List.splitOn_eq_singleton hsep, List.mem_singleton] at h
      exact ⟨h ▸ hsep, h ▸ List.infix_rfl⟩
  · rintro ⟨hsep, u, v, h⟩
    -- Split both sides: the segment is an inner one of the list between two separators.
    have hright : (sep :: (l ++ [sep])).splitOn sep = [[]] ++ (l.splitOn sep ++ [[]]) := by
      rw [← List.nil_append (sep :: (l ++ [sep])), List.splitOn_append_cons_self,
        List.splitOn_append_cons_self, List.splitOn_nil]
    have hleft : (u ++ sep :: (segment ++ [sep]) ++ v).splitOn sep =
        u.splitOn sep ++ (segment :: v.splitOn sep) := by
      rw [List.append_assoc, List.cons_append, List.splitOn_append_cons_self, List.append_assoc,
        List.singleton_append, List.splitOn_append_cons_self_of_not_mem hsep]
    rw [h, hright] at hleft
    obtain ⟨first, us, hus⟩ := List.exists_cons_of_ne_nil (List.splitOn_ne_nil sep u)
    rcases List.eq_nil_or_concat (v.splitOn sep) with hv | ⟨vs, last, hvs⟩
    · exact absurd hv (List.splitOn_ne_nil sep v)
    · rw [hus, hvs, List.singleton_append, List.cons_append] at hleft
      have htail := (List.cons.inj hleft).2
      have hsplit : us ++ segment :: vs.concat last = (us ++ segment :: vs) ++ [last] := by
        rw [List.concat_eq_append, List.append_assoc, List.cons_append]
      rw [List.append_inj_left' (htail.trans hsplit) rfl]
      exact List.mem_append_right us List.mem_cons_self

/-- Whatever is no separator stands in a segment. -/
theorem List.exists_mem_splitOn {α : Type u} [DecidableEq α] {sep a : α} {l : List α} (ha : a ∈ l)
    (hne : a ≠ sep) : ∃ segment ∈ l.splitOn sep, a ∈ segment := by
  induction l with
  | nil => cases ha
  | cons x xs ih =>
    obtain ⟨first, others, hsplit⟩ := List.exists_cons_of_ne_nil (List.splitOn_ne_nil sep xs)
    rw [hsplit] at ih
    rw [List.splitOn_cons_eq_if_modifyHead, hsplit, List.modifyHead_cons]
    rcases List.mem_cons.1 ha with rfl | ha
    · rw [if_neg (by simpa using hne)]
      exact ⟨a :: first, List.mem_cons_self, List.mem_cons_self⟩
    · obtain ⟨segment, hsegment, hmem⟩ := ih ha
      split
      · exact ⟨segment, List.mem_cons_of_mem _ hsegment, hmem⟩
      · rcases List.mem_cons.1 hsegment with rfl | hsegment
        · exact ⟨x :: segment, List.mem_cons_self, List.mem_cons_of_mem x hmem⟩
        · exact ⟨segment, List.mem_cons_of_mem _ hsegment, hmem⟩

namespace Python

/-! ### Segments -/

/-- `s.split(sep)`, for a separator of one character. -/
def split (sep : Char) (s : String) : List String :=
  (s.toList.splitOn sep).map String.ofList

/-- `sep.join(texts)`, for a separator of one character. -/
def join (sep : Char) (texts : List String) : String :=
  String.ofList ([sep].intercalate (texts.map String.toList))

theorem map_toList_split (sep : Char) (s : String) :
    (split sep s).map String.toList = s.toList.splitOn sep := by
  rw [split, List.map_map]
  exact List.map_id'' (fun _ ↦ String.toList_ofList) _

/-- **Joining undoes splitting.** -/
@[simp]
theorem join_split (sep : Char) (s : String) : join sep (split sep s) = s := by
  rw [join, map_toList_split, List.intercalate_splitOn, String.ofList_toList]

theorem split_ne_nil (sep : Char) (s : String) : split sep s ≠ [] :=
  fun h ↦ List.splitOn_ne_nil sep s.toList (List.map_eq_nil_iff.1 h)

/-- **A text has a segment** exactly when it occurs, between two separators, in the text between two
separators. -/
theorem mem_split_iff {sep : Char} {segment s : String} :
    segment ∈ split sep s ↔ sep ∉ segment.toList ∧
      sep :: (segment.toList ++ [sep]) <:+: sep :: (s.toList ++ [sep]) := by
  rw [← List.mem_splitOn_iff, ← map_toList_split, List.mem_map_of_injective]
  exact fun a b h ↦ String.toList_inj.1 h

/-- The characters of a segment are characters of the text. -/
theorem mem_of_mem_split {sep c : Char} {segment s : String} (h : segment ∈ split sep s)
    (hc : c ∈ segment.toList) (hne : c ≠ sep) : c ∈ s.toList := by
  have hmem := (mem_split_iff.1 h).2.subset
    (List.mem_cons_of_mem sep (List.mem_append_left [sep] hc))
  rcases List.mem_cons.1 hmem with rfl | hmem
  · exact absurd rfl hne
  · rcases List.mem_append.1 hmem with hmem | hmem
    · exact hmem
    · exact absurd (List.mem_singleton.1 hmem) hne

theorem exists_mem_split {sep c : Char} {s : String} (hc : c ∈ s.toList) (hne : c ≠ sep) :
    ∃ segment ∈ split sep s, c ∈ segment.toList := by
  obtain ⟨segment, hsegment, hmem⟩ := List.exists_mem_splitOn hc hne
  exact ⟨String.ofList segment, List.mem_map_of_mem hsegment, by rwa [String.toList_ofList]⟩

/-! ### Pure paths -/

/-- A `PurePosixPath`: its root, which is empty when it is relative, and its other parts. -/
structure PurePosixPath where
  root : String
  tail : List String
deriving DecidableEq

namespace PurePosixPath

/-- The segments of a text that make parts of a path. -/
def plainSegments (text : String) : List String :=
  (split '/' text).filter fun segment ↦ segment ≠ "" ∧ segment ≠ "."

/-- `PurePosixPath(text)`. Two slashes at the beginning, and no third, are a root of their own. -/
def parse (text : String) : PurePosixPath :=
  match text.toList with
  | '/' :: '/' :: rest =>
    if rest.head? = some '/' then ⟨"/", plainSegments (String.ofList ('/' :: rest))⟩
    else ⟨"//", plainSegments (String.ofList rest)⟩
  | '/' :: rest => ⟨"/", plainSegments (String.ofList rest)⟩
  | _ => ⟨"", plainSegments text⟩

/-- `path.is_absolute()`. -/
def isAbsolute (path : PurePosixPath) : Bool :=
  path.root ≠ ""

/-- `path.parts`. -/
def parts (path : PurePosixPath) : List String :=
  if path.root = "" then path.tail else path.root :: path.tail

/-- `path.as_posix()`. -/
def asPosix (path : PurePosixPath) : String :=
  let text := path.root ++ join '/' path.tail
  if text = "" then "." else text

/-- A text without a slash at the beginning is a relative path. -/
theorem parse_of_head {text : String} (h : text.toList.head? ≠ some '/') :
    parse text = ⟨"", plainSegments text⟩ := by
  unfold parse
  split
  · next heq => exact absurd (by rw [heq]; rfl) h
  · next heq => exact absurd (by rw [heq]; rfl) h
  · rfl

theorem isAbsolute_parse_iff {text : String} :
    (parse text).isAbsolute = true ↔ text.toList.head? = some '/' := by
  unfold parse isAbsolute
  split
  · next heq =>
    rw [heq]
    split <;> exact iff_of_true (by simp) rfl
  · next heq =>
    rw [heq]
    exact iff_of_true (by simp) rfl
  · next hone htwo =>
    refine iff_of_false (by simp) fun hhead ↦ ?_
    obtain ⟨rest, hrest⟩ := List.head?_eq_some_iff.1 hhead
    exact htwo rest hrest

/-- A text whose segments all make parts. -/
theorem plainSegments_eq_split {text : String} (hempty : "" ∉ split '/' text)
    (hdot : "." ∉ split '/' text) : plainSegments text = split '/' text := by
  rw [plainSegments, List.filter_eq_self]
  intro segment hsegment
  refine decide_eq_true ⟨?_, ?_⟩
  · rintro rfl
    exact hempty hsegment
  · rintro rfl
    exact hdot hsegment

/-- The path of such a text is told from that of another such text by its parts. -/
theorem plainSegments_injective {text text' : String} (hempty : "" ∉ split '/' text)
    (hdot : "." ∉ split '/' text) (hempty' : "" ∉ split '/' text') (hdot' : "." ∉ split '/' text')
    (h : plainSegments text = plainSegments text') : text = text' := by
  rw [plainSegments_eq_split hempty hdot, plainSegments_eq_split hempty' hdot'] at h
  rw [← join_split '/' text, h, join_split]

end PurePosixPath

/-! ### Resolved paths -/

/-- `os.path.realpath` where there are no links, on the names of an absolute path, innermost
first. -/
def realpath : List String → List String
  | [] => []
  | name :: dir =>
    if name = ".." then (realpath dir).tail
    else if name = "" ∨ name = "." then realpath dir
    else name :: realpath dir

/-- Names that stand for themselves are kept. -/
theorem realpath_eq_self {names : List String}
    (h : ∀ name ∈ names, name ≠ "" ∧ name ≠ "." ∧ name ≠ "..") : realpath names = names := by
  induction names with
  | nil => rfl
  | cons name dir ih =>
    obtain ⟨hempty, hdot, hup⟩ := h name List.mem_cons_self
    rw [realpath, if_neg hup, if_neg (not_or.2 ⟨hempty, hdot⟩),
      ih fun n hn ↦ h n (List.mem_cons_of_mem name hn)]

end Python
