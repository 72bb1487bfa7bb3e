import ClassRegistry.Proofs.Path.Pieces

/-!
# What is above a path

A path loses its last name, and what says nothing around it, on each step up. So the names of what
is above a path start the names of the path, and the way up ends at the root or at the empty path.
-/

namespace ClassRegistry.Path

/-! ## Pieces and texts -/

/-- A slash stands between a piece and what follows. -/
theorem joinPieces_cons (piece : List Char) {more : List (List Char)} (h : more ≠ []) :
    joinPieces (piece :: more) = piece ++ '/' :: joinPieces more := by
  obtain ⟨next, rest, rfl⟩ := List.exists_cons_of_ne_nil h
  rw [joinPieces]
  exact h

/-- Pieces are joined with slashes between them. -/
theorem joinPieces_eq_intercalate (list : List (List Char)) :
    joinPieces list = List.intercalate ['/'] list := by
  induction list with
  | nil => rfl
  | cons piece more ih =>
      cases more with
      | nil => rw [joinPieces, List.intercalate_singleton]
      | cons next more =>
          rw [joinPieces_cons piece (List.cons_ne_nil next more), ih, List.intercalate_cons_cons,
            List.append_assoc, List.singleton_append]

/-- Joined pieces without slashes are the pieces of the text. -/
theorem pieces_joinPieces {list : List (List Char)} (hne : list ≠ [])
    (h : ∀ piece ∈ list, '/' ∉ piece) : pieces (joinPieces list) = list := by
  induction list with
  | nil => exact absurd rfl hne
  | cons piece more ih =>
      obtain ⟨hpiece, hmore⟩ := List.forall_mem_cons.mp h
      cases more with
      | nil => exact pieces_eq_singleton hpiece
      | cons next more =>
          have hnext := List.cons_ne_nil next more
          rw [joinPieces_cons piece hnext, pieces_append_slash, pieces_eq_singleton hpiece,
            ih hnext hmore, List.singleton_append]

/-- Lists of pieces are joined with a slash between them. -/
theorem joinPieces_append {list more : List (List Char)} (hlist : list ≠ []) (hmore : more ≠ []) :
    joinPieces (list ++ more) = joinPieces list ++ '/' :: joinPieces more := by
  induction list with
  | nil => exact absurd rfl hlist
  | cons piece rest ih =>
      by_cases hrest : rest = []
      · rw [hrest, List.singleton_append, joinPieces_cons piece hmore, joinPieces]
      · rw [List.cons_append, joinPieces_cons piece (List.append_ne_nil_of_left_ne_nil hrest more),
          ih hrest, joinPieces_cons piece hrest, List.append_assoc, List.cons_append]

/-- Pieces without slashes, the last of which is not empty, do not end with a slash. -/
theorem getLast?_joinPieces {list : List (List Char)} (hne : list ≠ [])
    (h : ∀ piece ∈ list, '/' ∉ piece) (hlast : list.getLast? ≠ some []) :
    ∃ c, (joinPieces list).getLast? = some c ∧ c ≠ '/' := by
  have hpieces := pieces_joinPieces hne h
  cases hend : (joinPieces list).getLast? with
  | none =>
      rw [List.getLast?_eq_none_iff.mp hend] at hpieces
      exact absurd (hpieces ▸ rfl) hlast
  | some c =>
      refine ⟨c, rfl, ?_⟩
      rintro rfl
      have hsplit := List.dropLast_append_getLast? '/' hend
      rw [← hsplit, pieces_append_slash, pieces] at hpieces
      exact hlast (hpieces ▸ List.getLast?_concat)

/-- The pieces of a path, but for the empty one before the root. -/
def body (p : Path) : List (List Char) :=
  if p.isAbsolute then (pieces p.text.toList).tail else pieces p.text.toList

/-- What stands before the body of a path. -/
def opening (p : Path) : List Char :=
  if p.isAbsolute then ['/'] else []

/-- An absolute path has a slash before its other pieces. -/
theorem pieces_of_isAbsolute {p : Path} (h : p.isAbsolute = true) :
    ∃ rest, p.text.toList = '/' :: rest ∧ pieces p.text.toList = [] :: pieces rest := by
  rw [isAbsolute, beq_iff_eq] at h
  obtain ⟨rest, hrest⟩ := List.head?_eq_some_iff.mp h
  exact ⟨rest, hrest, by rw [hrest, pieces, if_pos rfl]⟩

/-- The body of a path is not empty. -/
theorem body_ne_nil (p : Path) : p.body ≠ [] := by
  rw [body]
  split
  · rename_i habsolute
    obtain ⟨rest, -, hpieces⟩ := pieces_of_isAbsolute habsolute
    rw [hpieces]
    exact pieces_ne_nil rest
  · exact pieces_ne_nil _

/-- No piece of the body holds a slash. -/
theorem slash_notMem_of_mem_body {p : Path} {piece : List Char} (h : piece ∈ p.body) :
    '/' ∉ piece := by
  rw [body] at h
  split at h
  · exact slash_notMem_of_mem_pieces (List.mem_of_mem_tail h)
  · exact slash_notMem_of_mem_pieces h

/-- The text of a path is its opening and its body. -/
theorem toList_text_eq (p : Path) : p.text.toList = p.opening ++ joinPieces p.body := by
  rw [joinPieces_eq_intercalate, opening, body]
  split
  · rename_i habsolute
    obtain ⟨rest, htext, hpieces⟩ := pieces_of_isAbsolute habsolute
    rw [hpieces, List.tail_cons, intercalate_pieces, htext]
    rfl
  · rw [intercalate_pieces, List.nil_append]

/-- The first piece of a relative path is empty only when the path is. -/
theorem body_eq_of_isAbsolute_eq_false {p : Path} (h : p.isAbsolute = false)
    {more : List (List Char)} (hbody : p.body = [] :: more) : p.text.toList = [] ∧ more = [] := by
  rw [body, h, if_neg Bool.false_ne_true] at hbody
  cases htext : p.text.toList with
  | nil =>
      rw [htext, pieces] at hbody
      exact ⟨rfl, (List.cons.inj hbody).2.symm⟩
  | cons c rest =>
      have hc : c ≠ '/' := by
        rintro rfl
        rw [isAbsolute, htext] at h
        cases h
      obtain ⟨piece, others, hrest⟩ := List.exists_cons_of_ne_nil (pieces_ne_nil rest)
      rw [htext, pieces, if_neg hc, hrest] at hbody
      cases hbody

/-! ## The last piece that says something -/

/-- What is trimmed off says nothing. -/
theorem exists_trimPieces (absolute : Bool) (list : List (List Char)) :
    ∃ blanks, list = blanks ++ trimPieces absolute list ∧
      ∀ piece ∈ blanks, piece = [] ∨ piece = ['.'] := by
  induction list with
  | nil => exact ⟨[], rfl, fun piece h => absurd h List.not_mem_nil⟩
  | cons piece earlier ih =>
      rw [trimPieces]
      split
      · rename_i hblank
        obtain ⟨blanks, hsplit, hblanks⟩ := ih
        refine ⟨piece :: blanks, by rw [List.cons_append, ← hsplit], ?_⟩
        refine List.forall_mem_cons.mpr ⟨?_, hblanks⟩
        rw [Bool.or_eq_true, List.isEmpty_iff, Bool.and_eq_true, beq_iff_eq] at hblank
        exact hblank.imp_right And.left
      · exact ⟨[], rfl, fun piece h => absurd h List.not_mem_nil⟩

/-- What is left does not end with an empty piece. -/
theorem ne_nil_of_trimPieces_eq_cons {absolute : Bool} {list earlier : List (List Char)}
    {piece : List Char} (h : trimPieces absolute list = piece :: earlier) : piece ≠ [] := by
  induction list with
  | nil => cases h
  | cons first rest ih =>
      rw [trimPieces] at h
      split at h
      · exact ih h
      · rename_i hsaid
        obtain ⟨rfl, -⟩ := List.cons.inj h
        rw [Bool.or_eq_true, not_or, List.isEmpty_iff] at hsaid
        exact hsaid.1

/-- The body of the parent is what is left without the last piece that says something. -/
theorem parent?_eq (p : Path) : p.parent? = match trimPieces p.isAbsolute p.body.reverse with
    | [] => none
    | _ :: earlier => some ⟨String.ofList
      (p.opening ++ joinPieces (trimPieces p.isAbsolute earlier).reverse)⟩ := by
  rw [parent?, body, opening]
  cases p.isAbsolute <;> rfl

/-- How a path is cut on a step up. -/
theorem exists_body_of_parent? {p q : Path} (h : p.parent? = some q) :
    ∃ kept between piece blanks, p.body = kept ++ between ++ piece :: blanks ∧
      q.text.toList = p.opening ++ joinPieces kept ∧ kept.getLast? ≠ some [] ∧ piece ≠ [] ∧
      ∀ blank ∈ between ++ blanks, blank = [] ∨ blank = ['.'] := by
  rw [parent?_eq] at h
  cases htrim : trimPieces p.isAbsolute p.body.reverse with
  | nil =>
      rw [htrim] at h
      cases h
  | cons piece earlier =>
      rw [htrim] at h
      obtain rfl := Option.some.inj h
      -- pieces that say nothing are cut twice: behind the last one and behind those before it
      obtain ⟨blanks, hbody, hblanks⟩ := exists_trimPieces p.isAbsolute p.body.reverse
      obtain ⟨between, hearlier, hbetween⟩ := exists_trimPieces p.isAbsolute earlier
      refine ⟨(trimPieces p.isAbsolute earlier).reverse, between.reverse, piece, blanks.reverse,
        ?_, String.toList_ofList, ?_, ne_nil_of_trimPieces_eq_cons htrim, ?_⟩
      · rw [htrim] at hbody
        rw [← List.reverse_reverse p.body, hbody]
        nth_rewrite 1 [hearlier]
        simp
      · rw [List.getLast?_reverse]
        intro hlast
        obtain ⟨rest, hrest⟩ := List.head?_eq_some_iff.mp hlast
        exact ne_nil_of_trimPieces_eq_cons hrest rfl
      · intro blank hblank
        rw [List.mem_append, List.mem_reverse, List.mem_reverse] at hblank
        exact hblank.elim (hbetween blank) (hblanks blank)

/-- A path without a parent says nothing. -/
theorem eq_of_mem_body_of_parent?_eq_none {p : Path} (h : p.parent? = none) {piece : List Char}
    (hpiece : piece ∈ p.body) : piece = [] ∨ piece = ['.'] := by
  rw [parent?_eq] at h
  cases htrim : trimPieces p.isAbsolute p.body.reverse with
  | cons last earlier =>
      rw [htrim] at h
      cases h
  | nil =>
      obtain ⟨blanks, hbody, hblanks⟩ := exists_trimPieces p.isAbsolute p.body.reverse
      rw [htrim, List.append_nil] at hbody
      exact hblanks piece (hbody ▸ List.mem_reverse.mpr hpiece)

/-! ## The names of the parent -/

/-- The pieces without an empty one at the end. -/
def withoutBlankEnd (list : List (List Char)) : List (List Char) :=
  if list.getLast? = some [] then list.dropLast else list

/-- The leading names of a path stand in its body. -/
theorem leadingNames_eq (p : Path) : p.leadingNames =
    (if p.isAbsolute then [""] else []) ++ (withoutBlankEnd p.body).map String.ofList := by
  have hnames : p.names = (if p.isAbsolute then [""] else []) ++ p.body.map String.ofList := by
    rw [names, body]
    split
    · rename_i habsolute
      obtain ⟨rest, -, hpieces⟩ := pieces_of_isAbsolute habsolute
      rw [hpieces]
      rfl
    · rfl
  have hmap : p.body.map String.ofList ≠ [] := by simpa using p.body_ne_nil
  have hlast : p.names.getLast? = some "" ↔ p.body.getLast? = some [] := by
    rw [hnames, List.getLast?_append_of_ne_nil _ hmap, List.getLast?_map]
    simp
  rw [leadingNames, withoutBlankEnd]
  by_cases hblank : p.body.getLast? = some []
  · rw [if_pos (hlast.mpr hblank), if_pos hblank, hnames, List.dropLast_append_of_ne_nil hmap,
      List.map_dropLast]
  · rw [if_neg fun h => hblank (hlast.mp h), if_neg hblank, hnames]

/-- The pieces that the parent keeps start it as the path is started. -/
theorem isAbsolute_of_parent? {p q : Path} (h : p.parent? = some q) :
    q.isAbsolute = p.isAbsolute := by
  obtain ⟨kept, between, piece, blanks, hbody, htext, -, hpiece, -⟩ := exists_body_of_parent? h
  cases habsolute : p.isAbsolute with
  | true =>
      rw [opening, habsolute, if_pos rfl] at htext
      rw [isAbsolute, htext]
      rfl
  | false =>
      rw [opening, habsolute, if_neg Bool.false_ne_true, List.nil_append] at htext
      cases kept with
      | nil =>
          rw [isAbsolute, htext]
          rfl
      | cons first more =>
          -- the first piece is not empty, for others follow it
          have hfirst : first ≠ [] := by
            rintro rfl
            obtain ⟨-, hnone⟩ := body_eq_of_isAbsolute_eq_false habsolute hbody
            simp at hnone
          have hslash : '/' ∉ first :=
            slash_notMem_of_mem_body (p := p) (by rw [hbody]; simp)
          obtain ⟨c, rest, rfl⟩ := List.exists_cons_of_ne_nil hfirst
          have hc : c ≠ '/' := fun hc => hslash (hc ▸ List.mem_cons_self)
          have hhead : (joinPieces ((c :: rest) :: more)).head? = some c := by
            rw [joinPieces_eq_intercalate]
            cases more with
            | nil => simp
            | cons next more => simp [List.intercalate_cons_cons]
          rw [isAbsolute, htext, hhead]
          simpa using hc

/-- The names of the parent start those of a path; behind them comes one more name, and otherwise
only what says nothing. -/
theorem exists_leadingNames_of_parent? {p q : Path} (h : p.parent? = some q) :
    ∃ between name blanks, p.leadingNames = q.leadingNames ++ between ++ name :: blanks ∧
      ∀ blank ∈ between ++ blanks, blank = "" ∨ blank = "." := by
  have habsolute := isAbsolute_of_parent? h
  obtain ⟨kept, between, piece, blanks, hbody, htext, hkept, hpiece, hblanks⟩ :=
    exists_body_of_parent? h
  have hword : ∀ blank : List Char, blank = [] ∨ blank = ['.'] →
      String.ofList blank = "" ∨ String.ofList blank = "." := by
    rintro blank (rfl | rfl)
    · exact Or.inl rfl
    · exact Or.inr rfl
  -- no empty piece stands at the end of what the parent keeps
  have hparent : withoutBlankEnd q.body = kept := by
    have hq : q.body = pieces (joinPieces kept) := by
      rw [body, habsolute, htext, opening]
      cases p.isAbsolute with
      | true =>
          rw [if_pos rfl, if_pos rfl, List.singleton_append, pieces, if_pos rfl, List.tail_cons]
      | false => rw [if_neg Bool.false_ne_true, if_neg Bool.false_ne_true, List.nil_append]
    by_cases hnone : kept = []
    · rw [hq, hnone]
      rfl
    · have hslash : ∀ other ∈ kept, '/' ∉ other := fun other hother =>
        slash_notMem_of_mem_body (p := p) (by rw [hbody]; simp [hother])
      rw [hq, pieces_joinPieces hnone hslash, withoutBlankEnd, if_neg hkept]
  -- a slash at the end of the path leaves an empty piece, which is no leading name
  have hpath : ∃ few, withoutBlankEnd p.body = kept ++ between ++ piece :: few ∧ few ⊆ blanks := by
    rw [withoutBlankEnd, hbody]
    split
    · rename_i hlast
      have hsome : blanks ≠ [] := by
        rintro rfl
        rw [List.getLast?_concat] at hlast
        exact hpiece (Option.some.inj hlast)
      refine ⟨blanks.dropLast, ?_, List.dropLast_subset blanks⟩
      rw [List.dropLast_append_of_ne_nil (List.cons_ne_nil piece blanks),
        List.dropLast_cons_of_ne_nil hsome]
    · exact ⟨blanks, rfl, List.Subset.refl blanks⟩
  obtain ⟨few, hpath, hfew⟩ := hpath
  refine ⟨between.map String.ofList, String.ofList piece, few.map String.ofList, ?_, ?_⟩
  · rw [leadingNames_eq, leadingNames_eq, habsolute, hpath, hparent]
    simp
  · rw [← List.map_append]
    intro blank hblank
    obtain ⟨chars, hchars, rfl⟩ := List.mem_map.mp hblank
    refine hword chars (hblanks chars ?_)
    rw [List.mem_append] at hchars ⊢
    exact hchars.imp_right fun hmem => hfew hmem

/-- The names of a path without a parent say nothing. -/
theorem eq_of_mem_leadingNames_of_parent?_eq_none {p : Path} (h : p.parent? = none) {name : String}
    (hname : name ∈ p.leadingNames) : name = "" ∨ name = "." := by
  rw [leadingNames_eq, List.mem_append] at hname
  rcases hname with hname | hname
  · split at hname
    · exact Or.inl (List.mem_singleton.mp hname)
    · cases hname
  · obtain ⟨piece, hpiece, rfl⟩ := List.mem_map.mp hname
    have hmem : piece ∈ p.body := by
      rw [withoutBlankEnd] at hpiece
      split at hpiece
      · exact List.dropLast_subset _ hpiece
      · exact hpiece
    rcases eq_of_mem_body_of_parent?_eq_none h hmem with rfl | rfl
    · exact Or.inl rfl
    · exact Or.inr rfl

/-! ## The text of the parent -/

/-- The text of a path goes on where names that are joined to its parent are written. -/
theorem exists_text_of_parent? {p q : Path} (h : p.parent? = some q) :
    ∃ rest, rest ≠ "" ∧ p.text = q.lead ++ rest := by
  obtain ⟨kept, between, piece, blanks, hbody, htext, hkept, hpiece, -⟩ := exists_body_of_parent? h
  obtain ⟨more, hmore⟩ : ∃ more, more = between ++ piece :: blanks := ⟨_, rfl⟩
  have hne : more ≠ [] := by simp [hmore]
  have hbody : p.body = kept ++ more := by rw [hbody, hmore, List.append_assoc]
  have hslash : ∀ other ∈ kept ++ more, '/' ∉ other := fun other hother =>
    slash_notMem_of_mem_body (hbody ▸ hother)
  have hrest : joinPieces more ≠ [] := by
    intro hnone
    have hpieces := pieces_joinPieces hne fun other hother =>
      hslash other (List.mem_append_right kept hother)
    rw [hnone, pieces] at hpieces
    have hmem : piece ∈ more := by simp [hmore]
    rw [← hpieces] at hmem
    exact hpiece (List.mem_singleton.mp hmem)
  have hlead : p.text.toList = q.lead.toList ++ joinPieces more := by
    rw [toList_text_eq, hbody, lead]
    by_cases hnone : kept = []
    · rw [hnone, joinPieces, List.append_nil, opening] at htext
      -- nothing is kept: the parent is empty or the root, and needs no slash behind it
      have hwhole : (q.text.isEmpty || q.text.toList.getLast? == some '/') = true := by
        rw [Bool.or_eq_true, String.isEmpty_iff, ← String.toList_eq_nil_iff, htext]
        split
        · exact Or.inr rfl
        · exact Or.inl rfl
      rw [hwhole, if_pos rfl, htext, hnone, List.nil_append, opening]
    -- the last piece that is kept is not empty, so a slash is put behind it
    · obtain ⟨c, hlast, hc⟩ := getLast?_joinPieces hnone
        (fun other hother => hslash other (List.mem_append_left more hother)) hkept
      have hend : q.text.toList.getLast? = some c := by
        rw [htext, List.getLast?_append, hlast, Option.some_or]
      have hwhole : (q.text.isEmpty || q.text.toList.getLast? == some '/') = false := by
        rw [Bool.or_eq_false_iff, hend]
        refine ⟨?_, by simpa using hc⟩
        rw [← Bool.not_eq_true, String.isEmpty_iff, ← String.toList_eq_nil_iff]
        intro hempty
        rw [hempty] at hend
        cases hend
      rw [hwhole, if_neg Bool.false_ne_true, String.toList_append, htext,
        joinPieces_append hnone hne]
      simp
  refine ⟨String.ofList (joinPieces more), by simpa using hrest, ?_⟩
  rw [← String.toList_inj, String.toList_append, String.toList_ofList, hlead]

/-- The text that names are written behind starts with the text itself. -/
theorem exists_lead (p : Path) : ∃ rest, p.lead = p.text ++ rest := by
  rw [lead]
  split
  · exact ⟨"", String.append_empty.symm⟩
  · exact ⟨"/", rfl⟩

/-- The parent has a shorter text. -/
theorem length_text_of_parent? {p q : Path} (h : p.parent? = some q) :
    q.text.length < p.text.length := by
  obtain ⟨rest, hrest, htext⟩ := exists_text_of_parent? h
  obtain ⟨slash, hlead⟩ := q.exists_lead
  have hpos : rest.length ≠ 0 := fun hzero => hrest (String.length_eq_zero_iff.mp hzero)
  rw [htext, hlead, String.length_append, String.length_append]
  omega

/-! ## The way up -/

/-- The bound on the way up is no bound: the texts run out before. -/
theorem ancestorsUpTo_eq_of_le {size bound : Nat} {p : Path} (hp : p.text.length ≤ size)
    (h : size ≤ bound) : ancestorsUpTo bound p = ancestorsUpTo size p := by
  induction bound generalizing size p with
  | zero => rw [Nat.le_zero.mp h]
  | succ bound ih =>
      cases hparent : p.parent? with
      | none =>
          cases size with
          | zero => rw [ancestorsUpTo, ancestorsUpTo, hparent]
          | succ size => rw [ancestorsUpTo, ancestorsUpTo, hparent]
      | some q =>
          have hshorter := length_text_of_parent? hparent
          cases size with
          | zero => omega
          | succ size =>
              have hq : q.text.length ≤ size := by omega
              rw [ancestorsUpTo, ancestorsUpTo, hparent]
              simp only
              rw [ih hq (Nat.le_of_succ_le_succ h)]

/-- Nothing is above a path without a parent. -/
theorem ancestors_of_parent?_eq_none {p : Path} (h : p.parent? = none) : p.ancestors = [p] := by
  rw [ancestors]
  cases p.text.length with
  | zero => rfl
  | succ bound => rw [ancestorsUpTo, h]

/-- What is above a path is its parent and what is above this. -/
theorem ancestors_of_parent?_eq_some {p q : Path} (h : p.parent? = some q) :
    p.ancestors = p :: q.ancestors := by
  have hshorter := length_text_of_parent? h
  obtain ⟨bound, hbound⟩ := Nat.exists_eq_add_of_lt hshorter
  rw [ancestors, hbound, ancestorsUpTo, h]
  simp only
  rw [ancestorsUpTo_eq_of_le (Nat.le_refl _) (Nat.le_add_right _ bound), ancestors]

/-- What holds of a path without a parent, and of each path when it holds of the parent, holds of
all paths. -/
theorem induction_on_parent? {motive : Path → Prop} (p : Path)
    (top : ∀ p : Path, p.parent? = none → motive p)
    (step : ∀ p q : Path, p.parent? = some q → motive q → motive p) : motive p := by
  generalize hsize : p.text.length = size
  induction size using Nat.strongRecOn generalizing p with
  | ind size ih =>
      cases hparent : p.parent? with
      | none => exact top p hparent
      | some q =>
          have hshorter := length_text_of_parent? hparent
          exact step p q hparent (ih _ (hsize ▸ hshorter) q rfl)

end ClassRegistry.Path
