import Mathlib.Data.List.TakeWhile
import StablePath.Files.Path

/-!
Ancestors of paths.

A path is as good as its parts: what it begins with, and its names. A parent has all parts but the
last, and a file in a directory has one part more than the directory. So the way up from a path
comes to an end, and no two directories on it are the same.
-/

namespace StablePath.Files.Path

/-! ### Segments -/

lemma segments_eq_splitOn (text : List Char) : segments text = text.splitOn '/' := by
  induction text with
  | nil => rfl
  | cons c text ih =>
    rw [segments, List.splitOn_cons_eq_if_modifyHead, ← ih]
    by_cases hc : c = '/'
    · simp [hc]
    · obtain ⟨first, more, hsegments⟩ :=
        List.exists_cons_of_ne_nil (ih ▸ List.splitOn_ne_nil '/' text)
      simp [hc, hsegments]

lemma segments_ne_nil (text : List Char) : segments text ≠ [] :=
  segments_eq_splitOn text ▸ List.splitOn_ne_nil '/' text

lemma segments_cons {c : Char} (hc : c ≠ '/') (text : List Char) :
    segments (c :: text) = (segments text).modifyHead (c :: ·) := by
  rw [segments_eq_splitOn, segments_eq_splitOn, List.splitOn_cons_eq_if_modifyHead]
  simp [hc]

lemma segments_of_not_mem {name : List Char} (h : '/' ∉ name) : segments name = [name] := by
  rw [segments_eq_splitOn, List.splitOn_eq_singleton h]

lemma segments_append (a b : List Char) : segments (a ++ '/' :: b) = segments a ++ segments b := by
  induction a with
  | nil => rfl
  | cons c a ih =>
    by_cases hc : c = '/'
    · subst hc
      rw [List.cons_append, segments, segments, ih]
      rfl
    · obtain ⟨first, more, hsegments⟩ := List.exists_cons_of_ne_nil (segments_ne_nil a)
      rw [List.cons_append, segments_cons hc, segments_cons hc, ih, hsegments]
      rfl

lemma not_mem_of_mem_segments {segment text : List Char} (h : segment ∈ segments text) :
    '/' ∉ segment := by
  induction text generalizing segment with
  | nil =>
    rw [List.mem_singleton.mp h]
    exact List.not_mem_nil
  | cons c text ih =>
    obtain ⟨first, more, hsegments⟩ := List.exists_cons_of_ne_nil (segments_ne_nil text)
    by_cases hc : c = '/'
    · subst hc
      rcases List.mem_cons.mp h with rfl | h
      · exact List.not_mem_nil
      · exact ih h
    · rw [segments_cons hc, hsegments, List.modifyHead_cons] at h
      rcases List.mem_cons.mp h with rfl | h
      · have hfirst := ih (hsegments ▸ List.mem_cons_self)
        exact List.not_mem_cons_of_ne_of_not_mem (Ne.symm hc) hfirst
      · exact ih (hsegments ▸ List.mem_cons_of_mem _ h)

/-- The segments that stand for something. -/
def active (segs : List (List Char)) : List (List Char) := segs.filter fun segment => !isIdle segment

@[simp] lemma active_append (a b : List (List Char)) : active (a ++ b) = active a ++ active b :=
  List.filter_append a b

lemma active_eq_nil {segs : List (List Char)} (h : ∀ segment ∈ segs, isIdle segment = true) :
    active segs = [] := by
  refine List.filter_eq_nil_iff.mpr fun segment hmem => ?_
  simp [h segment hmem]

/-- Some first segments of a text, joined again, are its first segments. -/
lemma segments_intercalate {segs : List (List Char)} {text : List Char} (hne : segs ≠ [])
    (h : segs <+: segments text) : segments (['/'].intercalate segs) = segs := by
  rw [segments_eq_splitOn, List.splitOn_intercalate '/' ?_ hne]
  exact fun segment hmem => not_mem_of_mem_segments (h.subset hmem)

lemma length_active_le (text : List Char) : (active (segments text)).length ≤ text.length := by
  induction text with
  | nil => exact Nat.le_refl 0
  | cons c text ih =>
    by_cases hc : c = '/'
    · subst hc
      exact Nat.le_succ_of_le ih
    · obtain ⟨first, more, hsegments⟩ := List.exists_cons_of_ne_nil (segments_ne_nil text)
      rw [hsegments, active, List.filter_cons] at ih
      rw [segments_cons hc, hsegments, List.modifyHead_cons, active, List.filter_cons]
      -- one segment may come to stand for something
      split_ifs at ih ⊢ <;> simp only [List.length_cons] at ih ⊢ <;> omega

/-! ### Parts -/

/-- What a path begins with, if it begins with anything but a name, and its names. -/
def parts (path : Path) : List (List Char) :=
  (if lead path = [] then [] else [lead path]) ++ names path

lemma names_eq (path : Path) : names path = active (segments (path.drop (lead path).length)) := rfl

lemma head_segments_eq_nil {text : List Char} {first : List Char} {more : List (List Char)}
    (h : segments text = first :: more) : first = [] ↔ text = [] ∨ text.head? = some '/' := by
  cases text with
  | nil =>
    obtain ⟨rfl, -⟩ := List.cons.inj h
    simp
  | cons c text =>
    by_cases hc : c = '/'
    · subst hc
      obtain ⟨rfl, -⟩ := List.cons.inj h
      simp
    · obtain ⟨second, others, hsegments⟩ := List.exists_cons_of_ne_nil (segments_ne_nil text)
      rw [segments_cons hc, hsegments] at h
      obtain ⟨rfl, -⟩ := List.cons.inj h
      simp [hc]

lemma lead_cons {c : Char} (hc : c ≠ '/') (rest : List Char) :
    lead (c :: rest) = if c = '.' ∧ (rest = [] ∨ rest.head? = some '/') then ['.'] else [] := by
  by_cases hdot : c = '.'
  · subst hdot
    rcases rest with _ | ⟨d, rest⟩
    · simp [lead]
    · by_cases hd : d = '/' <;> simp [lead, hd]
  · simp [lead, hc, hdot]

lemma lead_eq_nil_iff {path : Path} {first : List Char} {more : List (List Char)}
    (h : segments path = first :: more) : lead path = [] ↔ path = [] ∨ isIdle first = false := by
  cases path with
  | nil => simp [lead]
  | cons c rest =>
    by_cases hc : c = '/'
    · subst hc
      obtain ⟨rfl, -⟩ := List.cons.inj h
      simp [lead, isIdle]
    · obtain ⟨second, others, hsegments⟩ := List.exists_cons_of_ne_nil (segments_ne_nil rest)
      simp only [lead_cons hc, ← head_segments_eq_nil hsegments]
      rw [segments_cons hc, hsegments] at h
      obtain ⟨rfl, -⟩ := List.cons.inj h
      simp [isIdle]

lemma lead_cases (path : Path) :
    (∃ rest, path = '/' :: rest ∧ lead path = ['/']) ∨
      (∃ rest, path = '.' :: rest ∧ lead path = ['.'] ∧ (rest = [] ∨ rest.head? = some '/')) ∨
      lead path = [] := by
  cases path with
  | nil => exact Or.inr (Or.inr rfl)
  | cons c rest =>
    by_cases hc : c = '/'
    · subst hc
      exact Or.inl ⟨rest, rfl, rfl⟩
    · refine Or.inr ?_
      by_cases hdot : c = '.' ∧ (rest = [] ∨ rest.head? = some '/')
      · obtain ⟨rfl, hrest⟩ := hdot
        exact Or.inl ⟨rest, rfl, by rw [lead_cons hc, if_pos ⟨rfl, hrest⟩], hrest⟩
      · exact Or.inr (by rw [lead_cons hc, if_neg hdot])

lemma append_drop_lead (path : Path) : lead path ++ path.drop (lead path).length = path := by
  rcases lead_cases path with ⟨rest, rfl, hlead⟩ | ⟨rest, rfl, hlead, -⟩ | hlead <;> simp [hlead]

/-- Some first segments of a path, joined again, have its lead and their names. -/
lemma lead_intercalate {segs : List (List Char)} {path : Path} (h : segs <+: body path) :
    lead (lead path ++ ['/'].intercalate segs) = lead path := by
  rcases lead_cases path with ⟨rest, rfl, hlead⟩ | ⟨rest, rfl, hlead, hrest⟩ | hlead
  · rw [hlead]
    rfl
  · -- the segment after the dot is empty
    have hbody : body ('.' :: rest) = segments rest := by rw [body, hlead]; rfl
    obtain ⟨first, more, hsegments⟩ := List.exists_cons_of_ne_nil (segments_ne_nil rest)
    obtain rfl := (head_segments_eq_nil hsegments).mpr hrest
    rw [hlead]
    rw [hbody, hsegments] at h
    rcases segs with _ | ⟨first, _ | ⟨second, segs⟩⟩
    · rfl
    · rw [(List.cons_prefix_cons.mp h).1]
      rfl
    · rw [(List.cons_prefix_cons.mp h).1]
      simp [lead, List.intercalate]
  · have hbody : body path = segments path := by rw [body, hlead]; rfl
    rw [hbody] at h
    rw [hlead, List.nil_append]
    rcases segs with _ | ⟨first, segs⟩
    · rfl
    · obtain ⟨more, hmore⟩ := h
      refine (lead_eq_nil_iff (segments_intercalate (List.cons_ne_nil _ _) ⟨more, hmore⟩)).mpr ?_
      rcases (lead_eq_nil_iff hmore.symm).mp hlead with rfl | hfirst
      · obtain ⟨rfl, hsegs⟩ := List.cons.inj hmore
        rw [(List.append_eq_nil_iff.mp hsegs).1]
        exact Or.inl rfl
      · exact Or.inr hfirst

lemma active_body_intercalate {segs : List (List Char)} {path : Path} (h : segs <+: body path) :
    active (body (lead path ++ ['/'].intercalate segs)) = active segs := by
  rw [body, lead_intercalate h, List.drop_left]
  by_cases hne : segs = []
  · subst hne
    rfl
  · rw [segments_intercalate hne h]

/-! ### Parents -/

lemma parts_of_lead {path : Path} {front : List Char} (h : lead path = front) :
    parts path = (if front = [] then [] else [front]) ++ active (body path) := by
  rw [parts, h]
  rfl

/-- **A parent has all parts but the last.** -/
lemma exists_parts_of_parent? {path up : Path} (h : parent? path = some up) :
    ∃ last, parts path = parts up ++ [last] := by
  unfold parent? at h
  split at h
  next x before hbefore =>
    obtain rfl := Option.some.inj h
    set segs := (before.dropWhile isIdle).reverse with hsegs
    have hx : isIdle x = false := by
      have hhead := List.head?_dropWhile_not isIdle (body path).reverse
      rw [hbefore] at hhead
      simpa using hhead
    -- the body is some first segments, idle ones, the last name and idle ones again
    obtain ⟨idle, hidle, hsplit⟩ : ∃ idle, active idle = [] ∧ before.reverse = segs ++ idle := by
      refine ⟨(before.takeWhile isIdle).reverse, active_eq_nil fun segment hmem => ?_, ?_⟩
      · exact List.all_eq_true.mp List.all_takeWhile segment (List.mem_reverse.mp hmem)
      · rw [hsegs, ← List.reverse_append, List.takeWhile_append_dropWhile]
    obtain ⟨idle', hidle', hbody⟩ : ∃ idle, active idle = [] ∧
        body path = before.reverse ++ [x] ++ idle := by
      refine ⟨((body path).reverse.takeWhile isIdle).reverse, active_eq_nil fun segment hmem => ?_, ?_⟩
      · exact List.all_eq_true.mp List.all_takeWhile segment (List.mem_reverse.mp hmem)
      · rw [← List.reverse_cons, ← hbefore, ← List.reverse_append, List.takeWhile_append_dropWhile,
          List.reverse_reverse]
    have hprefix : segs <+: body path := ⟨idle ++ [x] ++ idle', by simp [hbody, hsplit]⟩
    have hlead := lead_intercalate hprefix
    refine ⟨x, ?_⟩
    rw [parts_of_lead hlead, parts_of_lead rfl, active_body_intercalate hprefix, hbody, hsplit,
      List.append_assoc]
    have hone : active [x] = [x] := by simp [active, hx]
    simp only [active_append, hidle, hidle', hone, List.append_nil, List.nil_append,
      List.append_assoc]
  next hidle =>
    split_ifs at h with hlead
    obtain rfl := Option.some.inj h
    have hnames : active (body path) = [] := by
      refine active_eq_nil fun segment hmem => ?_
      exact List.dropWhile_eq_nil_iff.mp hidle segment (List.mem_reverse.mpr hmem)
    exact ⟨['.'], by rw [parts_of_lead hlead, hnames]; rfl⟩

lemma length_parts_le (path : Path) : (parts path).length ≤ path.length := by
  have hnames := length_active_le (path.drop (lead path).length)
  have hlength := congrArg List.length (append_drop_lead path)
  rw [List.length_append] at hlength
  have hlead : (if lead path = [] then [] else [lead path]).length ≤ (lead path).length := by
    split_ifs with hnil
    · exact Nat.zero_le _
    · exact List.length_pos_iff.mpr hnil
  rw [parts, List.length_append, names_eq]
  omega

/-! ### The way up -/

/-- As soon as there are more steps than parts, it does not count how many there are. -/
lemma ancestorsWithin_eq {path : Path} {m n : Nat} (hm : (parts path).length < m)
    (hn : (parts path).length < n) : ancestorsWithin m path = ancestorsWithin n path := by
  induction m generalizing path n with
  | zero => omega
  | succ m ih =>
    obtain ⟨n, rfl⟩ : ∃ k, n = k + 1 := ⟨n - 1, by omega⟩
    rw [ancestorsWithin, ancestorsWithin]
    cases hparent : parent? path with
    | none => rfl
    | some up =>
      obtain ⟨last, hparts⟩ := exists_parts_of_parent? hparent
      rw [hparts, List.length_append, List.length_singleton] at hm hn
      exact congrArg _ (ih (by omega) (by omega))

/-- **The way up**: a path, and the way up from its parent as long as there is one. -/
theorem ancestors_eq (path : Path) :
    ancestors path = path :: ((parent? path).map ancestors).getD [] := by
  rw [ancestors, ancestorsWithin]
  cases hparent : parent? path with
  | none => rfl
  | some up =>
    obtain ⟨last, hparts⟩ := exists_parts_of_parent? hparent
    have hlength := length_parts_le path
    rw [hparts, List.length_append, List.length_singleton] at hlength
    have hup := length_parts_le up
    exact congrArg _ (ancestorsWithin_eq (by omega) (by omega))

/-- Each directory on the way up is the parent of the one before, and the way ends where there is
no parent. -/
lemma getElem?_ancestors_succ (path : Path) {k : Nat} {dir : Path}
    (h : (ancestors path)[k]? = some dir) : (ancestors path)[k + 1]? = parent? dir := by
  induction k generalizing path with
  | zero =>
    rw [ancestors_eq] at h ⊢
    obtain rfl := Option.some.inj h
    cases hparent : parent? path with
    | none => rfl
    | some up =>
      simp only [Option.map_some, Option.getD_some, List.getElem?_cons_succ]
      rw [ancestors_eq]
      rfl
  | succ k ih =>
    rw [ancestors_eq] at h ⊢
    cases hparent : parent? path with
    | none => simp [hparent] at h
    | some up =>
      simp only [hparent, Option.map_some, Option.getD_some, List.getElem?_cons_succ] at h ⊢
      exact ih up h

/-- The way up loses a part with every step. -/
lemma pairwise_ancestors (path : Path) :
    (ancestors path).Pairwise fun a b => (parts b).length < (parts a).length := by
  induction hn : (parts path).length using Nat.strongRecOn generalizing path with
  | ind n ih =>
    rw [ancestors_eq]
    cases hparent : parent? path with
    | none => simp
    | some up =>
      obtain ⟨last, hparts⟩ := exists_parts_of_parent? hparent
      have hlt : (parts up).length < n := by
        rw [← hn, hparts, List.length_append, List.length_singleton]
        omega
      have hup := ih _ hlt up rfl
      rw [Option.map_some, Option.getD_some]
      refine List.pairwise_cons.mpr ⟨fun dir hdir => ?_, hup⟩
      rw [ancestors_eq] at hdir hup
      rcases List.mem_cons.mp hdir with rfl | hdir
      · rwa [hn]
      · have hlt' := (List.pairwise_cons.mp hup).1 dir hdir
        omega

/-! ### Files in directories -/

lemma lead_append_slash {path : Path} (hne : path ≠ []) (rest : List Char) :
    lead (path ++ '/' :: rest) = lead path := by
  obtain ⟨c, path, rfl⟩ := List.exists_cons_of_ne_nil hne
  by_cases hc : c = '/'
  · subst hc
    rfl
  · rw [List.cons_append]
    cases path <;> simp [lead_cons hc]

lemma parts_append_slash {path : Path} (hne : path ≠ []) (rest : List Char) :
    parts (path ++ '/' :: rest) = parts path ++ active (segments rest) := by
  have hlength : (lead path).length ≤ path.length := by
    have h := congrArg List.length (append_drop_lead path)
    rw [List.length_append] at h
    omega
  rw [parts_of_lead (lead_append_slash hne rest), parts_of_lead rfl, body, lead_append_slash hne,
    List.drop_append_of_le_length hlength, segments_append, active_append, List.append_assoc]
  rfl

/-- **A file in a directory has one part more than the directory.** -/
lemma parts_join (dir : Path) {name : List Char} (hslash : '/' ∉ name)
    (hactive : isIdle name = false) : parts (dir.join name) = parts dir ++ [name] := by
  have hhead : name.head? ≠ some '/' := fun h => hslash (List.mem_of_mem_head? h)
  have hname : active (segments name) = [name] := by
    rw [segments_of_not_mem hslash]
    simp [active, hactive]
  unfold join
  rw [if_neg hhead]
  by_cases hdir : dir = []
  · subst hdir
    have hlead := (lead_eq_nil_iff (segments_of_not_mem hslash)).mpr (Or.inr hactive)
    rw [if_pos (by simp), List.nil_append, parts_of_lead hlead, body, hlead, List.length_nil,
      List.drop_zero, hname]
    rfl
  · by_cases hlast : dir.getLast? = some '/'
    · obtain ⟨front, rfl⟩ := List.getLast?_eq_some_iff.mp hlast
      rw [if_pos (by simp), List.append_assoc, List.singleton_append]
      by_cases hfront : front = []
      · subst hfront
        exact congrArg _ hname
      · rw [parts_append_slash hfront, parts_append_slash hfront, hname]
        simp [segments, active, isIdle]
    · rw [if_neg (by simp [hdir, hlast]), parts_append_slash hdir, hname]

lemma not_mem_names_of_lead {a : Path} (b : Path) (h : lead a ≠ []) : lead a ∉ names b := by
  intro hmem
  obtain ⟨hsegment, hactive⟩ := List.mem_filter.mp hmem
  rcases lead_cases a with ⟨rest, -, hlead⟩ | ⟨rest, -, hlead, -⟩ | hlead
  · rw [hlead] at hsegment
    exact not_mem_of_mem_segments hsegment (List.mem_singleton_self _)
  · rw [hlead] at hactive
    cases hactive
  · exact h hlead

lemma same_iff {a b : Path} : same a b = true ↔ parts a = parts b := by
  rw [same, Bool.and_eq_true, beq_iff_eq, beq_iff_eq]
  constructor
  · rintro ⟨hlead, hnames⟩
    rw [parts, parts, hlead, hnames]
  · intro h
    by_cases ha : lead a = [] <;> by_cases hb : lead b = [] <;> simp only [parts, ha, hb, if_pos,
      if_false, List.nil_append, List.singleton_append] at h
    · exact ⟨ha.trans hb.symm, h⟩
    · exact absurd (h ▸ List.mem_cons_self) (not_mem_names_of_lead a hb)
    · exact absurd (h ▸ List.mem_cons_self) (not_mem_names_of_lead b ha)
    · exact List.cons.inj h

end StablePath.Files.Path
