import StablePath.Proofs.Builtin.Cgroups
import StablePath.Proofs.Builtin.Numbers
import StablePath.Proofs.Rule.Commuting

/-!
The built-in rules in another order.

The four rules before the one for container ids work on components: two write over numbers, and two
enclose a star in each component. None of them makes or takes away what another one looks for, so
any two commute. So do the two rules behind the one for container ids.
-/

namespace StablePath.Builtin

open Pattern

/-! ### Numbers of two names -/

section

variable {name other : List Char} {r r' : List Char → List Char} {cs : List (List Char)}

lemma taken_numbers (hname : isNumber name = false) (hother : isNumber other = false)
    (hmark : other ∉ marks) (hne : other ≠ name) (hr : Marking r) :
    taken other (numbers name r cs) = taken other cs :=
  congrArg alternate (funext fun _ => numbered_numbers hname hr hother hmark hne)

lemma numbers_comm (hname : isNumber name = false) (hother : isNumber other = false)
    (hmark : name ∉ marks) (hmark' : other ∉ marks) (hne : other ≠ name) (hr : Marking r)
    (hr' : Marking r') :
    numbers other r' (numbers name r cs) = numbers name r (numbers other r' cs) := by
  refine List.ext_getElem? fun i => ?_
  rw [getElem?_numbers hother, getElem?_numbers hname, getElem?_numbers hname,
    getElem?_numbers hother, taken_numbers hname hother hmark' hne hr,
    taken_numbers hother hname hmark hne.symm hr']
  by_cases htaken : taken name cs i = true
  · obtain ⟨-, -, hprev, -⟩ := numbered_iff.mp (numbered_of_taken htaken)
    simp [htaken, taken_of_ne hprev hne.symm]
  · simp [htaken]

/-- What keeps names and numbers, and what is written over these, may be done to all components
before or behind a sweep over numbers. -/
lemma numbers_map {f : List Char → List Char} (hname : ∀ c, f c = name ↔ c = name)
    (hnumber : ∀ c, isNumber (f c) = isNumber c)
    (hr : ∀ d, isNumber d = true → r (f d) = f (r d)) :
    numbers name r (cs.map f) = (numbers name r cs).map f := by
  fun_induction numbers name r cs with
  | case1 c a d e rest h ih =>
    obtain ⟨ha, hd⟩ := h
    simp only [List.map_cons] at ih ⊢
    rw [numbers, if_pos ⟨(hname a).mpr ha, (hnumber d).trans hd⟩, ih, hr d hd]
  | case2 c a d e rest h ih =>
    simp only [List.map_cons] at ih ⊢
    rw [numbers, if_neg (by rwa [hname, hnumber]), ih]
  | case3 cs hshort =>
    rcases cs with _ | ⟨c, _ | ⟨a, _ | ⟨d, _ | ⟨e, rest⟩⟩⟩⟩
    any_goals rfl
    exact absurd rfl (hshort c a d e rest)

end

/-! ### Stars of two control groups -/

variable {lead other text ending w : List Char} {c : Char}

lemma fromLast?_cons_of_some (h : fromLast? text = some ending) (c : Char) :
    fromLast? (c :: text) = some ending := by
  rw [fromLast?, h]

lemma fromLast?_append (h : fromLast? text = some ending) (w : List Char) :
    fromLast? (w ++ text) = some ending := by
  induction w with
  | nil => exact h
  | cons c w ih => exact fromLast?_cons_of_some ih c

lemma fromLast?_eq_none_of_suffix (h : fromLast? text = none) (hw : w <:+ text) :
    fromLast? w = none := by
  cases hlast : fromLast? w with
  | none => rfl
  | some ending =>
    obtain ⟨hsuffix, hending, -⟩ := isEnding_of_fromLast? hlast
    exact absurd hending (not_isEnding_of_fromLast? h ending (hsuffix.trans hw))

/-- A text from the last suffix on is its own last one, and behind its beginning there is none. -/
lemma fromLast?_ending (h : fromLast? text = some ending) :
    fromLast? ending = some ending ∧
      ∀ w, w <:+ ending → w.length < ending.length → fromLast? w = none := by
  obtain ⟨hsuffix, hending, hle⟩ := isEnding_of_fromLast? h
  have hshort : ∀ w, w <:+ ending → w.length < ending.length → fromLast? w = none := by
    intro w hw hlt
    cases hlast : fromLast? w with
    | none => rfl
    | some later =>
      obtain ⟨hlater, hbegins, -⟩ := isEnding_of_fromLast? hlast
      have := hle later ((hlater.trans hw).trans hsuffix) hbegins
      have := hlater.length_le
      omega
  refine ⟨?_, hshort⟩
  cases ending with
  | nil => exact absurd hending not_isEnding_nil
  | cons c more =>
    rw [fromLast?, hshort more (List.suffix_cons c more) (by simp)]
    exact if_pos hending

/-! What is enclosed, character by character. -/

lemma enclose_cons (h : ¬ lead <+: c :: text) :
    enclose lead (c :: text) = c :: enclose lead text := by
  unfold enclose
  rw [cutAt?, if_neg h]
  cases cutAt? lead text with
  | none => rfl
  | some cut =>
    obtain ⟨before, rest⟩ := cut
    dsimp only [Option.map_some]
    cases fromLast? rest <;> rfl

lemma enclose_lead (hne : lead ≠ []) (rest : List Char) :
    enclose lead (lead ++ rest) =
      match fromLast? rest with
      | none => lead ++ rest
      | some ending => lead ++ '*' :: ending := by
  obtain ⟨d, more, rfl⟩ := List.exists_cons_of_ne_nil hne
  have hcut : cutAt? (d :: more) (d :: more ++ rest) = some ([], rest) := by
    rw [List.cons_append, cutAt?, ← List.cons_append, if_pos (List.prefix_append _ _),
      List.drop_left]
  rw [enclose, hcut]
  rfl

lemma enclose_append {d : Char} {more : List Char} (h : d ∉ w) (text : List Char) :
    enclose (d :: more) (w ++ text) = w ++ enclose (d :: more) text := by
  induction w with
  | nil => rfl
  | cons c w ih =>
    obtain ⟨hc, hw⟩ := not_or.mp (mt List.mem_cons.mpr h)
    have hno : ¬ d :: more <+: c :: (w ++ text) := fun hstart =>
      hc (List.cons_prefix_cons.mp hstart).1
    rw [List.cons_append, enclose_cons hno, ih hw, List.cons_append]

lemma enclose_of_not_mem {d : Char} (hd : d ∈ lead) (h : d ∉ text) : enclose lead text = text := by
  unfold enclose
  cases hcut : cutAt? lead text with
  | none => rfl
  | some cut =>
    obtain ⟨before, rest⟩ := cut
    obtain ⟨rfl, -⟩ := eq_of_cutAt? hcut
    exact absurd (by simp [hd]) h

lemma enclose_of_no_ending (h : fromLast? text = none) : enclose lead text = text := by
  unfold enclose
  cases hcut : cutAt? lead text with
  | none => rfl
  | some cut =>
    obtain ⟨before, rest⟩ := cut
    obtain ⟨rfl, -⟩ := eq_of_cutAt? hcut
    have hsuffix : rest <:+ before ++ (lead ++ rest) := ⟨before ++ lead, by simp⟩
    simp only [fromLast?_eq_none_of_suffix h hsuffix]

lemma enclose_ending (hne : lead ≠ []) (h : fromLast? text = some ending) :
    enclose lead ending = ending := by
  unfold enclose
  cases hcut : cutAt? lead ending with
  | none => rfl
  | some cut =>
    obtain ⟨before, rest⟩ := cut
    obtain ⟨rfl, -⟩ := eq_of_cutAt? hcut
    have hsuffix : rest <:+ before ++ (lead ++ rest) := ⟨before ++ lead, by simp⟩
    have hlength : rest.length < (before ++ (lead ++ rest)).length := by
      have := List.length_pos_iff.mpr hne
      simp only [List.length_append]
      omega
    simp only [(fromLast?_ending h).2 rest hsuffix hlength]

/-- A star in a text is no part of what is looked for. -/
lemma prefix_of_enclose (hstar : '*' ∉ w) (h : w <+: enclose lead text) : w <+: text := by
  unfold enclose at h
  split at h
  · exact h
  next before rest hcut =>
    obtain ⟨rfl, -⟩ := eq_of_cutAt? hcut
    split at h
    · exact h
    next ending hlast =>
      rw [← List.append_assoc]
      exact (prefix_of_append_cons hstar h).trans (List.prefix_append _ _)

lemma fromLast?_enclose (hne : lead ≠ []) : fromLast? (enclose lead text) = fromLast? text := by
  induction text with
  | nil => rfl
  | cons c text ih =>
    by_cases hstart : lead <+: c :: text
    · obtain ⟨rest, hrest⟩ := hstart
      rw [← hrest, enclose_lead hne]
      cases hlast : fromLast? rest with
      | none => rfl
      | some ending =>
        have hown := fromLast?_cons_of_some (fromLast?_ending hlast).1 '*'
        rw [fromLast?_append hlast, fromLast?_append hown]
    · rw [enclose_cons hstart]
      cases hlast : fromLast? text with
      | none => rw [enclose_of_no_ending hlast]
      | some ending =>
        rw [hlast] at ih
        rw [fromLast?_cons_of_some ih, fromLast?_cons_of_some hlast]

/-- Where one of two leads stands, the other one encloses nothing that counts. -/
lemma enclose_enclose_lead {e : Char} {more : List Char} (hne : lead ≠ []) (he : e ∉ lead)
    (hstar : e ≠ '*') (rest : List Char) :
    enclose lead (enclose (e :: more) (lead ++ rest)) =
      enclose (e :: more) (enclose lead (lead ++ rest)) := by
  rw [enclose_append he, enclose_lead hne, enclose_lead hne,
    fromLast?_enclose (List.cons_ne_nil e more)]
  cases hlast : fromLast? rest with
  | none => exact (enclose_append he rest).symm
  | some ending =>
    have hfree : e ∉ lead ++ ['*'] := by simp [he, hstar]
    have hkept : enclose (e :: more) ((lead ++ ['*']) ++ ending) =
        (lead ++ ['*']) ++ enclose (e :: more) ending := enclose_append hfree ending
    rw [enclose_ending (List.cons_ne_nil e more) hlast] at hkept
    simpa using hkept.symm

/-- **Two leads enclose in either order**, if neither has the first character of the other. -/
lemma enclose_comm {d e : Char} {l m : List Char} (hd : d ∉ e :: m) (he : e ∉ d :: l)
    (hstar : '*' ∉ d :: l) (hstar' : '*' ∉ e :: m) (text : List Char) :
    enclose (d :: l) (enclose (e :: m) text) = enclose (e :: m) (enclose (d :: l) text) := by
  have hdstar : d ≠ '*' := fun h => hstar (h ▸ List.mem_cons_self)
  have hestar : e ≠ '*' := fun h => hstar' (h ▸ List.mem_cons_self)
  -- what does not begin a text does not begin it behind a star either
  have hkept : ∀ {w : List Char} {lead : List Char} {c : Char} {text : List Char}, '*' ∉ w →
      ¬ w <+: c :: text → ¬ w <+: c :: enclose lead text := by
    intro w lead c text hw hno hstart
    cases w with
    | nil => exact hno List.nil_prefix
    | cons k w =>
      obtain ⟨rfl, hrest⟩ := List.cons_prefix_cons.mp hstart
      have hfree : '*' ∉ w := fun hmem => hw (List.mem_cons_of_mem k hmem)
      exact hno (List.cons_prefix_cons.mpr ⟨rfl, prefix_of_enclose hfree hrest⟩)
  induction text with
  | nil => rfl
  | cons c text ih =>
    by_cases hfirst : d :: l <+: c :: text
    · obtain ⟨rest, hrest⟩ := hfirst
      rw [← hrest]
      exact enclose_enclose_lead (List.cons_ne_nil d l) he hestar rest
    by_cases hsecond : e :: m <+: c :: text
    · obtain ⟨rest, hrest⟩ := hsecond
      rw [← hrest]
      exact (enclose_enclose_lead (List.cons_ne_nil e m) hd hdstar rest).symm
    · rw [enclose_cons hsecond, enclose_cons (hkept hstar hfirst), enclose_cons hfirst,
        enclose_cons (hkept hstar' hsecond), ih]

/-! ### Rules on components -/

/-- A rule works on the components of a path. -/
def Maps (rule : Rule) (f : Sighting → List (List Char) → List (List Char)) : Prop :=
  ∀ sighting path reduction, rule.reduce? sighting path = some reduction →
    components reduction.path = f sighting (components path)

lemma Maps.commutes {a b : Rule} {f g : Sighting → List (List Char) → List (List Char)}
    (ha : Maps a f) (hb : Maps b g) (h : ∀ sighting cs, g sighting (f sighting cs) =
      f sighting (g sighting cs)) : a.Commutes b := by
  refine Rule.commutes_of_path fun sighting path ra rb rab rba hra hrb hrab hrba => ?_
  refine components_injective ?_
  rw [hb _ _ _ hrab, ha _ _ _ hra, ha _ _ _ hrba, hb _ _ _ hrb, h]

/-- What the rules for numbers do. -/
def writeNumbers (name : String) (r : UInt32 → List Char → List Char) (sighting : Sighting) :
    List (List Char) → List (List Char) :=
  numbers name.toList (r sighting.pid)

/-- What the rules for control groups do. -/
def encloseAll (lead : String) (sighting : Sighting) (cs : List (List Char)) : List (List Char) :=
  if OnSysfs sighting.filesystem then cs.map (enclose lead.toList) else cs

lemma maps_writeNumbers {rule : Rule} {name hint : String} {edit : Edit}
    (hmade : Made rule (segmentTerm name) edit (some hint) .always) (hgroup : edit.group = 1)
    (hhint : Text.occursIn hint.toList (('/' :: name.toList) ++ ['/']) = true)
    (hname : '/' ∉ name.toList)
    (hr : ∀ pid d, isNumber d = true → '/' ∉ edit.replacement pid d) :
    Maps rule (writeNumbers name edit.replacement) := by
  intro sighting path reduction hreduction
  have hfinds := finds_segment name
  rw [← hgroup] at hfinds
  obtain ⟨other, hother, hsweeps, -⟩ := reduces_of_around hmade Always passes_always hfinds
    (by simpa using hhint) sighting path
  obtain rfl := Option.some.inj (hreduction.symm.trans hother)
  exact components_of_pass hname (hr sighting.pid) (hsweeps trivial)

lemma maps_encloseAll {rule : Rule} {lead : String} (h : Encloses rule lead) :
    Maps rule (encloseAll lead) := by
  intro sighting path reduction hreduction
  obtain ⟨other, hother, hon, hoff⟩ := h sighting path
  rw [Ruleset.reduce?_one] at hother
  obtain rfl := Option.some.inj (hreduction.symm.trans hother)
  unfold encloseAll
  split_ifs with hsysfs
  · exact hon hsysfs
  · rw [hoff hsysfs]

/-! ### Numbers and control groups -/

/-- What has no character of a lead is enclosed nowhere and comes from nothing else. -/
lemma enclose_eq_iff {d : Char} (hd : d ∈ lead) (hw : d ∉ w) :
    enclose lead text = w ↔ text = w := by
  constructor
  · intro h
    unfold enclose at h
    split at h
    · exact h
    next before rest hcut =>
      split at h
      · exact h
      · exact absurd (by simp [← h, hd]) hw
  · rintro rfl
    exact enclose_of_not_mem hd hw

lemma hyphenless_of_isNumber (h : isNumber w = true) : '-' ∉ w :=
  fun hmem => absurd ((isNumber_iff.mp h).2 _ hmem) (by decide)

lemma isNumber_enclose (hd : '-' ∈ lead) (text : List Char) :
    isNumber (enclose lead text) = isNumber text := by
  rw [Bool.eq_iff_iff]
  constructor
  · intro h
    rwa [← (enclose_eq_iff hd (hyphenless_of_isNumber h)).mp rfl] at h
  · intro h
    rwa [enclose_of_not_mem hd (hyphenless_of_isNumber h)]

lemma encloseAll_writeNumbers {name lead : String} {r : UInt32 → List Char → List Char}
    (hd : '-' ∈ lead.toList) (hname : '-' ∉ name.toList) (hr : ∀ pid, Marking (r pid))
    (sighting : Sighting) (cs : List (List Char)) :
    encloseAll lead sighting (writeNumbers name r sighting cs) =
      writeNumbers name r sighting (encloseAll lead sighting cs) := by
  unfold encloseAll writeNumbers
  split_ifs
  · refine (numbers_map (fun c => enclose_eq_iff hd hname) (isNumber_enclose hd)
      fun d hnumber => ?_).symm
    have hfree : '-' ∉ r sighting.pid d := by
      rcases hr sighting.pid d hnumber with hmark | heq
      · have hmarks : ∀ t ∈ marks, '-' ∉ t := by decide
        exact hmarks _ hmark
      · rw [heq]
        exact hyphenless_of_isNumber hnumber
    rw [enclose_of_not_mem hd (hyphenless_of_isNumber hnumber), enclose_of_not_mem hd hfree]
  · rfl

lemma encloseAll_comm {d e : Char} {l m : List Char} {first second : String}
    (hfirst : first.toList = d :: l) (hsecond : second.toList = e :: m) (hd : d ∉ e :: m)
    (he : e ∉ d :: l) (hstar : '*' ∉ d :: l) (hstar' : '*' ∉ e :: m) (sighting : Sighting)
    (cs : List (List Char)) :
    encloseAll first sighting (encloseAll second sighting cs) =
      encloseAll second sighting (encloseAll first sighting cs) := by
  unfold encloseAll
  split_ifs
  · rw [List.map_map, List.map_map, hfirst, hsecond]
    exact List.map_congr_left fun c _ => enclose_comm hd he hstar hstar' c
  · rfl

/-! ### Devices and tokens -/

lemma runs_device : Runs deviceLeads Char.isDigit := ⟨by decide, by decide, by decide, by decide⟩

lemma runs_token : Runs [tokenLead] isTokenChar := ⟨by decide, by decide, by decide, by decide⟩

lemma foreign_device_token : Foreign deviceLeads Char.isDigit [tokenLead] isTokenChar :=
  foreign_of_tails (by decide) runs_token.ne_nil (by decide +kernel)

lemma foreign_token_device : Foreign [tokenLead] isTokenChar deviceLeads Char.isDigit :=
  foreign_of_tails (by decide) runs_device.ne_nil (by decide +kernel)

/-- The rules for devices and for tokens commute, also where only one of them is on. -/
lemma commutes_device_token {a b : Rule}
    (ha : Made a deviceTerm (wildcard 1) (some "devices") onSysfs)
    (hb : Made b tokenTerm (wildcard 1) (some "serviceaccount") .always) : a.Commutes b := by
  have hdevice := reduces_of_around ha OnSysfs passes_onSysfs finds_device (by decide +kernel)
  have htoken := reduces_of_around hb Always passes_always finds_token (by decide +kernel)
  refine Rule.commutes_of_path fun sighting path ra rb rab rba hra hrb hrab hrba => ?_
  obtain ⟨_, hsome, hon, hoff⟩ := hdevice sighting path
  obtain rfl := Option.some.inj (hra.symm.trans hsome)
  obtain ⟨_, hsome, hon', hoff'⟩ := hdevice sighting rb.path
  obtain rfl := Option.some.inj (hrba.symm.trans hsome)
  by_cases hsysfs : OnSysfs sighting.filesystem
  · obtain ⟨_, hsome, hb, -⟩ := htoken sighting path
    obtain rfl := Option.some.inj (hrb.symm.trans hsome)
    obtain ⟨_, hsome, hab, -⟩ := htoken sighting ra.path
    obtain rfl := Option.some.inj (hrab.symm.trans hsome)
    exact RunSweep.comm runs_device runs_token foreign_device_token foreign_token_device
      (hon hsysfs) (hb trivial) (hab trivial) (hon' hsysfs)
  · rw [hoff hsysfs, hrb] at hrab
    rw [hoff' hsysfs, Option.some.inj hrab]

/-! ### The ruleset -/

lemma maps_writeProc {pid : Rule}
    (hpid : Made pid (segmentTerm "proc") (.pid 1) (some "proc") .always) :
    Maps pid (writeNumbers "proc" pidOrStar) :=
  maps_writeNumbers hpid rfl (by decide +kernel) (by decide) fun self _ => slashless_pidOrStar self

lemma pairwise_commutes {pid thread pod containerd : Rule}
    (hpid : Made pid (segmentTerm "proc") (.pid 1) (some "proc") .always)
    (hthread : Made thread (segmentTerm "task") (wildcard 1) (some "task") .always)
    (hpod : Made pod (cgroupTerm "kubepods-") (wildcard 1) (some "kubepods") onSysfs)
    (hcontainerd :
      Made containerd (cgroupTerm "cri-containerd-") (wildcard 1) (some "cri-containerd") onSysfs) :
    [pid, thread, pod, containerd].Pairwise Rule.Commutes := by
  have mpid := maps_writeProc hpid
  have mthread : Maps thread (writeNumbers "task" fun _ => star) :=
    maps_writeNumbers hthread rfl (by decide +kernel) (by decide) fun _ d _ => by
      show '/' ∉ ['*']
      decide
  have mpod := maps_encloseAll (encloses_of_made hpod (by decide) (by decide))
  have mcontainerd := maps_encloseAll (encloses_of_made hcontainerd (by decide) (by decide))
  have hmarking : ∀ _ : UInt32, Marking star := fun _ => marking_star
  have hnumbers : pid.Commutes thread := mpid.commutes mthread fun sighting cs =>
    numbers_comm isNumber_proc isNumber_task (by decide) (by decide) (by decide)
      (marking_pidOrStar sighting.pid) marking_star
  have hgroups : pod.Commutes containerd := mpod.commutes mcontainerd
    (encloseAll_comm rfl rfl (by decide) (by decide) (by decide) (by decide))
  have hpidPod : pid.Commutes pod := mpid.commutes mpod
    (encloseAll_writeNumbers (by decide) (by decide) marking_pidOrStar)
  have hpidContainerd : pid.Commutes containerd := mpid.commutes mcontainerd
    (encloseAll_writeNumbers (by decide) (by decide) marking_pidOrStar)
  have hthreadPod : thread.Commutes pod := mthread.commutes mpod
    (encloseAll_writeNumbers (by decide) (by decide) hmarking)
  have hthreadContainerd : thread.Commutes containerd := mthread.commutes mcontainerd
    (encloseAll_writeNumbers (by decide) (by decide) hmarking)
  simp [hnumbers, hgroups, hpidPod, hpidContainerd, hthreadPod, hthreadContainerd]

/-- The path of a process with so many zeros before its number that this could be a container id. -/
def zeros : List Char := "/proc/0000000000000000000000000005/x".toList

lemma not_commutes_id {pid id : Rule}
    (hpid : Made pid (segmentTerm "proc") (.pid 1) (some "proc") .always)
    (hid : Made id containerIdTerm (wildcard 0) none (.hexRun containerIdLength)) :
    ¬ pid.Commutes id := by
  have mpid := maps_writeProc hpid
  intro hcomm
  obtain ⟨a, ha, -⟩ := pid.exists_reduce? ⟨none, 5⟩ zeros
  obtain ⟨b, hb, hsweep, -⟩ := reduces_containerId hid ⟨none, 5⟩ a.path
  obtain ⟨c, hc, hsweep', -⟩ := reduces_containerId hid ⟨none, 5⟩ zeros
  obtain ⟨d, hd, -⟩ := pid.exists_reduce? ⟨none, 5⟩ c.path
  -- a process writes itself over its number, and no container id is left then
  have hself : (components b.path)[2]? = some "self".toList := by
    have hstarring := starring_of_masks sparing_id (masks_of_sweeps_id (hsweep trivial))
    refine hstarring.word 1 _ (by decide) ?_
    rw [mpid _ _ _ ha]
    decide +kernel
  -- a star that is written first is no number
  have hstar : (components d.path)[2]? = some ['*'] := by
    obtain ⟨e, he, -, hone⟩ := getElem?_of_long_number (hsweep' trivial)
      (by decide +kernel : (components zeros)[2]? = some "0000000000000000000000000005".toList)
      (by decide) (by decide)
    rw [hone.mpr (by decide)] at he
    rw [mpid _ _ _ hd]
    exact getElem?_numbers_of_not_number isNumber_proc he (by decide)
  have hsame := hcomm ⟨none, 5⟩ zeros
  rw [Ruleset.reduce?_cons, Ruleset.reduce?_cons, ha, hc, Option.bind_some, Option.bind_some,
    Ruleset.reduce?_one, Ruleset.reduce?_one, hb, hd] at hsame
  have hpath : (a.andThen b).path = (c.andThen d).path :=
    congrArg Reduction.path (Option.some.inj hsame)
  unfold Reduction.andThen at hpath
  dsimp only at hpath
  rw [hpath, hstar] at hself
  exact absurd (Option.some.inj hself) (by decide)

/-- **Only the place of the rule for container ids matters.** The four rules before it may stand in
any order, and so may the two behind it: every path is reduced to the same, and it is told as well
whether it was edited. But the rule for container ids may not change places with the one for
processes. -/
theorem reordered_rules_agree : ∃ pid thread pod containerd' id device' token',
    processPid = .ok pid ∧ threadId = .ok thread ∧ kubernetesPod = .ok pod ∧
    containerd = .ok containerd' ∧ containerId = .ok id ∧ virtualBlockDevice = .ok device' ∧
    serviceAccountToken = .ok token' ∧
    rules = .ok [pid, thread, pod, containerd', id, device', token'] ∧
    (∀ before after, before.Perm [pid, thread, pod, containerd'] → after.Perm [device', token'] →
      ∀ sighting path, ∃ reduction,
        (⟨[pid, thread, pod, containerd', id, device', token']⟩ : Ruleset).reduce? sighting path =
          some reduction ∧
        (⟨before ++ id :: after⟩ : Ruleset).reduce? sighting path = some reduction) ∧
    ¬ pid.Commutes id := by
  obtain ⟨pid, h₁, hpid⟩ := exists_processPid
  obtain ⟨thread, h₂, hthread⟩ := exists_threadId
  obtain ⟨pod, h₃, hpod⟩ := exists_kubernetesPod
  obtain ⟨containerd', h₄, hcontainerd⟩ := exists_containerd
  obtain ⟨id, h₅, hid⟩ := exists_containerId
  obtain ⟨device', h₆, hdevice⟩ := exists_virtualBlockDevice
  obtain ⟨token', h₇, htoken⟩ := exists_serviceAccountToken
  have hrules : rules = .ok [pid, thread, pod, containerd', id, device', token'] := by
    unfold rules
    rw [h₁, h₂, h₃, h₄, h₅, h₆, h₇]
    rfl
  have hfour := pairwise_commutes hpid hthread hpod hcontainerd
  have htwo : [device', token'].Pairwise Rule.Commutes := by
    simp [commutes_device_token hdevice htoken]
  refine ⟨pid, thread, pod, containerd', id, device', token', h₁, h₂, h₃, h₄, h₅, h₆, h₇, hrules,
    fun before after hbefore hafter sighting path => ?_, not_commutes_id hpid hid⟩
  have hsplit : [pid, thread, pod, containerd', id, device', token'] =
      [pid, thread, pod, containerd'] ++ id :: [device', token'] := rfl
  obtain ⟨reduction, hreduction, -⟩ := Ruleset.exists_reduce?
    ([pid, thread, pod, containerd'] ++ id :: [device', token']) sighting path
  refine ⟨reduction, hsplit ▸ hreduction, ?_⟩
  rw [← hreduction, Ruleset.reduce?_append, Ruleset.reduce?_append,
    Ruleset.reduce?_perm hbefore.symm hfour]
  simp only [Ruleset.reduce?_cons id, Ruleset.reduce?_perm hafter.symm htwo]

end StablePath.Builtin
