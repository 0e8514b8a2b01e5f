/-
# `Paths` — where a reference leads to below a base address

An address that was read has a path of allowed characters and without dot segments, so that what is
put behind it leaves it alone unless it brings dot segments of its own.  A reference counts up to its
first mark, a question mark or a hash sign; what it leads to is given by `resolve?_eq_some`.

Paths are taken as lists of segments.  Encoding maps over them (`pieces_encode`), and removing dot
segments keeps the list as it is (`removeDots_of_plain`) or makes it shorter.
-/
import Mathlib
import Winnow.Proofs.Web.Percent
import Winnow.Web.Url

namespace Winnow.Url

open Text Percent

/-! ## Characters -/

theorem isPathChar_ofNat :
    ∀ n < 0x80, isHexDigit (Char.ofNat n) = true → isPathChar (Char.ofNat n) = true := by
  decide

theorem keepsEscapes_isPathChar : KeepsEscapes isPathChar where
  ascii := by
    intro c h
    simp only [isPathChar, isQueryChar, isVisible, Bool.and_eq_true, decide_eq_true_eq] at h
    exact decide_eq_true (by omega)
  percent := by decide
  digit := by
    intro c h
    have hlt : c.toNat < 0x80 := of_decide_eq_true (isAsciiChar_of_isHexDigit h)
    rw [← Char.ofNat_toNat c] at h ⊢
    exact isPathChar_ofNat c.toNat hlt h

theorem slash_mem_of_mem_encode {cs : List Char} (h : '/' ∈ encode isPathChar cs) : '/' ∈ cs :=
  mem_of_mem_encode (by decide) (by decide) h

theorem encode_intercalate (segments : List (List Char)) :
    encode isPathChar (List.intercalate ['/'] segments)
      = List.intercalate ['/'] (segments.map (encode isPathChar)) := by
  induction segments with
  | nil => rfl
  | cons s rest ih =>
      cases rest with
      | nil => simp [List.intercalate]
      | cons s' rest =>
          rw [List.map_cons, List.map_cons, List.intercalate_cons_cons,
            List.intercalate_cons_cons, ← List.map_cons, ← ih, encode_append, encode_append]
          rfl

/-- Encoding a path encodes its segments. -/
theorem pieces_encode (path : List Char) :
    pieces '/' (encode isPathChar path) = (pieces '/' path).map (encode isPathChar) := by
  refine pieces_eq_iff.mpr ⟨?_, ?_, ?_⟩
  · rw [ne_eq, List.map_eq_nil_iff]
    exact pieces_ne_nil '/' path
  · intro segment hsegment
    obtain ⟨s, hs, rfl⟩ := List.mem_map.mp hsegment
    exact fun h => not_mem_of_mem_pieces hs (slash_mem_of_mem_encode h)
  · rw [← encode_intercalate, intercalate_pieces]

/-! ## Dot segments -/

/-- The segment is not one of dots. -/
def IsPlainSegment (segment : List Char) : Prop := segment ≠ ['.'] ∧ segment ≠ ['.', '.']

theorem eq_of_encode_dots :
    ∀ {n : Nat} {segment : List Char},
      encode isPathChar segment = List.replicate n '.' → segment = List.replicate n '.'
  | 0, [], _ => rfl
  | n + 1, [], h => by cases h
  | n, c :: rest, h => by
      by_cases hc : isPathChar c = true
      · rw [encode_cons_of_keep hc] at h
        cases n with
        | zero => cases h
        | succ n =>
            obtain ⟨rfl, hrest⟩ := List.cons.inj h
            rw [eq_of_encode_dots hrest]
            rfl
      · obtain ⟨b, bytes, hbytes⟩ :=
          List.exists_cons_of_ne_nil (String.utf8EncodeChar_ne_nil (c := c))
        rw [encode_cons, if_neg hc, hbytes, List.flatMap_cons, encodeByte_eq] at h
        cases n with
        | zero => cases h
        | succ n => exact absurd (List.cons.inj h).1 (by decide)

theorem isPlainSegment_encode {segment : List Char} (h : IsPlainSegment segment) :
    IsPlainSegment (encode isPathChar segment) :=
  ⟨fun hdot => h.1 (@eq_of_encode_dots 1 segment hdot),
    fun hdots => h.2 (@eq_of_encode_dots 2 segment hdots)⟩

theorem takeSegment_of_plain {seen : List (List Char)} {segment : List Char}
    (h : IsPlainSegment segment) : takeSegment seen segment = segment :: seen := by
  rw [takeSegment, if_neg h.1, if_neg h.2]

theorem foldl_takeSegment_of_plain :
    ∀ (segments seen : List (List Char)), (∀ s ∈ segments, IsPlainSegment s) →
      segments.foldl takeSegment seen = segments.reverse ++ seen
  | [], _, _ => rfl
  | s :: rest, seen, h => by
      obtain ⟨hs, hrest⟩ := List.forall_mem_cons.mp h
      rw [List.foldl_cons, takeSegment_of_plain hs, foldl_takeSegment_of_plain rest _ hrest,
        List.reverse_cons, List.append_assoc]
      rfl

/-- Whatever segment is taken, what is left are plain segments of those that came. -/
theorem of_mem_takeSegment {seen : List (List Char)} {segment s : List Char}
    (h : s ∈ takeSegment seen segment) : s ∈ seen ∨ s = segment ∧ IsPlainSegment s := by
  unfold takeSegment at h
  split at h
  · exact Or.inl h
  · next hdot =>
    split at h
    · split at h
      · exact Or.inl h
      · exact Or.inl (List.mem_of_mem_drop h)
    · next hdots =>
      rcases List.mem_cons.mp h with rfl | h
      · exact Or.inr ⟨rfl, hdot, hdots⟩
      · exact Or.inl h

theorem of_mem_foldl_takeSegment {s : List Char} :
    ∀ {segments seen : List (List Char)}, s ∈ segments.foldl takeSegment seen →
      s ∈ seen ∨ s ∈ segments ∧ IsPlainSegment s
  | [], _, h => Or.inl h
  | segment :: rest, seen, h => by
      have hrest : s ∈ rest.foldl takeSegment (takeSegment seen segment) := h
      rcases of_mem_foldl_takeSegment hrest with hseen | ⟨hrest, hplain⟩
      · rcases of_mem_takeSegment hseen with hseen | ⟨rfl, hplain⟩
        · exact Or.inl hseen
        · exact Or.inr ⟨List.mem_cons_self, hplain⟩
      · exact Or.inr ⟨List.mem_cons_of_mem segment hrest, hplain⟩

theorem length_takeSegment_le (seen : List (List Char)) (segment : List Char) :
    (takeSegment seen segment).length ≤ seen.length + 1 := by
  unfold takeSegment
  split
  · exact Nat.le_succ _
  · split
    · split
      · exact Nat.le_succ _
      · rw [List.length_drop]
        omega
    · exact Nat.le_refl _

theorem length_takeSegment_of_not_plain {seen : List (List Char)} {segment : List Char}
    (h : ¬ IsPlainSegment segment) : (takeSegment seen segment).length ≤ seen.length := by
  unfold takeSegment
  split
  · exact Nat.le_refl _
  · next hdot =>
    split
    · split
      · exact Nat.le_refl _
      · rw [List.length_drop]
        exact Nat.sub_le _ _
    · next hdots => exact absurd ⟨hdot, hdots⟩ h

/-- The segments that are left of a path; there may be none. -/
def segmentsLeft (path : List Char) : List (List Char) :=
  ((pieces '/' path).foldl takeSegment []).reverse

theorem pieces_removeDots (path : List Char) :
    segmentsLeft path = [] ∧ removeDots path = [] ∨
      pieces '/' (removeDots path) = segmentsLeft path := by
  by_cases hnil : segmentsLeft path = []
  · refine Or.inl ⟨hnil, ?_⟩
    change List.intercalate ['/'] (segmentsLeft path) = []
    rw [hnil]
    rfl
  · refine Or.inr (pieces_eq_iff.mpr ⟨hnil, ?_, rfl⟩)
    intro s hs
    rcases of_mem_foldl_takeSegment (List.mem_reverse.mp hs) with h | ⟨h, -⟩
    · cases h
    · exact not_mem_of_mem_pieces h

theorem length_pieces_removeDots_le (path : List Char) :
    (pieces '/' (removeDots path)).length ≤ max 1 (segmentsLeft path).length := by
  rcases pieces_removeDots path with ⟨-, h⟩ | h
  · rw [h]
    exact Nat.le_max_left _ _
  · rw [h]
    exact Nat.le_max_right _ _

theorem plain_of_mem_pieces_removeDots {path s : List Char}
    (h : s ∈ pieces '/' (removeDots path)) : IsPlainSegment s := by
  rcases pieces_removeDots path with ⟨-, hnil⟩ | hpieces
  · rw [hnil] at h
    rw [List.mem_singleton.mp h]
    exact ⟨nofun, nofun⟩
  · rw [hpieces] at h
    rcases of_mem_foldl_takeSegment (List.mem_reverse.mp h) with h | ⟨-, hplain⟩
    · cases h
    · exact hplain

/-- A path without dot segments stays as it is. -/
theorem removeDots_of_plain {path : List Char} (h : ∀ s ∈ pieces '/' path, IsPlainSegment s) :
    removeDots path = path := by
  rw [removeDots, foldl_takeSegment_of_plain _ _ h, List.append_nil, List.reverse_reverse,
    intercalate_pieces]

/-! ## Base addresses -/

/-- The path has allowed characters only, and no dot segments. -/
structure HasPlainPath (url : Url) : Prop where
  chars : ∀ c ∈ url.path, isPathChar c = true
  segments : ∀ s ∈ pieces '/' url.path, IsPlainSegment s

theorem path?_eq_some {hasAuthority : Bool} {path path' : List Char}
    (h : path? true hasAuthority path = some path') :
    path' = encode isPathChar (removeDots path) := by
  unfold path? at h
  split at h
  · exact (Option.some.inj h).symm
  · cases h

/-- An address that is read has a path in normal form, if it has a scheme. -/
theorem hasPlainPath_of_read? {cs : List Char} {url : Url} (h : read? cs = some url)
    (hscheme : url.scheme ≠ []) : url.HasPlainPath := by
  unfold read? at h
  dsimp only at h
  split at h
  · cases h
  · simp only [Option.bind_eq_bind, Option.bind_eq_some_iff] at h
    obtain ⟨_, -, _, -, path, hpath, h⟩ := h
    cases h
    have hsome : (!(splitScheme cs).1.isEmpty) = true := by
      rw [Bool.not_eq_true', List.isEmpty_eq_false_iff]
      intro hnil
      exact hscheme (by rw [hnil]; rfl)
    rw [hsome] at hpath
    have hpath := path?_eq_some hpath
    constructor
    · intro c hc
      exact keep_of_mem_encode keepsEscapes_isPathChar c (hpath ▸ hc)
    · intro s hs
      dsimp only at hs
      rw [hpath, pieces_encode] at hs
      obtain ⟨s', hs', rfl⟩ := List.mem_map.mp hs
      exact isPlainSegment_encode (plain_of_mem_pieces_removeDots hs')

/-- The address is one that paths can be put behind. -/
structure IsBase (url : Url) : Prop extends HasPlainPath url where
  scheme : url.scheme ≠ []
  query : url.query = none

/-- The path without a slash at its end. -/
def stem (url : Url) : List Char :=
  if url.path.getLast? = some '/' then url.path.dropLast else url.path

theorem path_eq_stem (url : Url) : url.path = url.stem ∨ url.path = url.stem ++ ['/'] := by
  unfold stem
  split
  · next h =>
    exact Or.inr (List.dropLast_append_getLast? '/' h).symm
  · exact Or.inl rfl

theorem directory_eq {url : Url} (h : url.query = none) : url.directory = url.stem ++ ['/'] := by
  unfold directory pathAndQuery stem
  rw [h]
  cases hpath : url.path with
  | nil => rfl
  | cons c rest =>
      simp only [List.isEmpty_cons, Bool.false_eq_true, if_false, List.append_nil]
      split
      · next hlast => exact (List.dropLast_append_getLast? '/' hlast).symm
      · rfl

theorem isPathChar_of_mem_stem {url : Url} (h : url.HasPlainPath) :
    ∀ c ∈ url.stem, isPathChar c = true := by
  intro c hc
  rcases path_eq_stem url with hpath | hpath
  · exact h.chars c (hpath ▸ hc)
  · exact h.chars c (hpath ▸ List.mem_append_left ['/'] hc)

theorem plain_of_mem_pieces_stem {url : Url} (h : url.HasPlainPath) :
    ∀ s ∈ pieces '/' url.stem, IsPlainSegment s := by
  intro s hs
  rcases path_eq_stem url with hpath | hpath
  · exact h.segments s (hpath ▸ hs)
  · refine h.segments s ?_
    rw [hpath, pieces_append]
    exact List.mem_append_left _ hs

/-! ## References -/

/-- The character ends a path. -/
def isMark (c : Char) : Bool := c = '#' || c = '?'

/-- What stands before the first character that ends a path. -/
def beforeMarks (cs : List Char) : List Char := cs.takeWhile fun c => !isMark c

theorem cutAt_fst (mark : Char) (cs : List Char) :
    (cutAt mark cs).1 = cs.takeWhile fun c => c ≠ mark := by
  have hkeep : ∀ {before : List Char}, mark ∉ before → ∀ c ∈ before, decide (c ≠ mark) = true :=
    fun h c hc => decide_eq_true fun h' => h (h' ▸ hc)
  rcases cutAt_cases mark cs with ⟨h, hcut⟩ | ⟨before, after, rfl, h, hcut⟩
  · rw [hcut, List.takeWhile_eq_self_iff.mpr (hkeep h)]
  · rw [hcut, List.takeWhile_append_of_pos (hkeep h)]
    simp

theorem beforeMarks_eq (cs : List Char) : (cutAt '?' (cutAt '#' cs).1).1 = beforeMarks cs := by
  rw [cutAt_fst, cutAt_fst, List.takeWhile_takeWhile, beforeMarks]
  congr 1
  funext c
  by_cases hhash : c = '#' <;> by_cases hquestion : c = '?' <;> simp [isMark, hhash, hquestion]

/-- A query is cut off again, and slashes at the start of a path do not count. -/
theorem cutAt_append_dropWhile {directory path tail : List Char} (hdirectory : '?' ∉ directory)
    (hpath : '?' ∉ path) (htail : ∀ c ∈ tail.head?, c = '?') :
    (cutAt '?' (directory ++ (path ++ tail).dropWhile (· = '/'))).1
      = directory ++ path.dropWhile (· = '/') := by
  have hdrop : (path ++ tail).dropWhile (· = '/') = path.dropWhile (· = '/') ++ tail := by
    rw [List.dropWhile_append]
    split
    · next hnil =>
      rw [List.isEmpty_iff.mp hnil, List.nil_append]
      cases tail with
      | nil => rfl
      | cons c rest =>
          cases htail c rfl
          rfl
    · rfl
  have hnot : '?' ∉ directory ++ path.dropWhile (· = '/') := by
    intro h
    rcases List.mem_append.mp h with h | h
    · exact hdirectory h
    · exact hpath ((List.dropWhile_sublist _).mem h)
  rw [hdrop, ← List.append_assoc]
  cases tail with
  | nil => rw [List.append_nil, cutAt_of_not_mem hnot]
  | cons c rest =>
      cases htail c rfl
      rw [cutAt_append rest hnot]

theorem isPathChar_of_mem_path? {hasScheme hasAuthority : Bool} {path path' : List Char}
    (h : path? hasScheme hasAuthority path = some path') : ∀ c ∈ path', isPathChar c = true := by
  unfold path? at h
  split at h
  · rw [← Option.some.inj h]
    exact keep_of_mem_encode keepsEscapes_isPathChar
  · cases h

/-- The path that a reference leads to has allowed characters only, whatever the base address is. -/
theorem isPathChar_of_mem_resolve? {base : Url} {reference path : List Char}
    (h : base.resolve? reference = some path) : ∀ c ∈ path, isPathChar c = true := by
  unfold resolve? at h
  dsimp only at h
  split at h
  · cases h
  · -- the reference has a query or it has none, which is no matter
    split at h
    · split at h
      · cases h
      · exact isPathChar_of_mem_path? h
    · split at h
      · cases h
      · exact isPathChar_of_mem_path? h

/-- The path that a reference leads to. -/
theorem resolve?_eq_some {base : Url} {reference path : List Char} (hbase : base.IsBase)
    (h : base.resolve? reference = some path) :
    path = encode isPathChar (removeDots (base.stem ++
      '/' :: (encode isPathChar (beforeMarks reference)).dropWhile (· = '/'))) := by
  have hdirectory : '?' ∉ base.directory := by
    rw [directory_eq hbase.query]
    intro hmark
    rcases List.mem_append.mp hmark with hmark | hmark
    · exact absurd (isPathChar_of_mem_stem hbase.toHasPlainPath _ hmark) (by decide)
    · exact absurd (List.mem_singleton.mp hmark) (by decide)
  have hpath : '?' ∉ encode isPathChar (beforeMarks reference) := fun hmark =>
    absurd (keep_of_mem_encode keepsEscapes_isPathChar _ hmark) (by decide)
  have hsome : (!base.scheme.isEmpty) = true := by
    rw [Bool.not_eq_true', List.isEmpty_eq_false_iff]
    exact hbase.scheme
  unfold resolve? at h
  dsimp only at h
  split at h
  · cases h
  · rw [beforeMarks_eq, hsome] at h
    split at h
    · split at h
      · cases h
      · rw [cutAt_append_dropWhile hdirectory hpath, directory_eq hbase.query, List.append_assoc] at h
        · exact path?_eq_some h
        · exact nofun
    · split at h
      · cases h
      · rw [cutAt_append_dropWhile hdirectory hpath, directory_eq hbase.query, List.append_assoc] at h
        · exact path?_eq_some h
        · exact fun _ hc => (Option.some.inj hc).symm

end Winnow.Url
