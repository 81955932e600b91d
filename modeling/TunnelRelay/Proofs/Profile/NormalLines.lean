import TunnelRelay.Proofs.Profile.Sections

/-!
# What becomes of a profile

The normal form of a profile is put together section by section. What becomes of a section depends
on the sections before it, and in one case on all of them; a few lines are added at the end.

## Main definitions

- `Profile.Section.gives` — a directive outside the blocks that is not dropped
- `Profile.Section.normalLines` — what becomes of one section
- `Profile.additions`, `Profile.normalLines` — the lines of the normal form
- `Profile.Met`, `Profile.restFrom` — the rules of the normal form halfway through a profile

## Main statements

- `Profile.restFrom_cons`, `Profile.restFrom_nil` — the rules item by item
- `Profile.restFrom_section` — the rules section by section
- `Profile.normalize_eq_normalLines` — the normal form of every profile

## Design notes

Each rule of the normal form goes through all items. Here each is given what was met before, so
that all of them can take one item, or the items of one section, and leave the rest to the rules
with more met. Whether the certificate rule is anywhere has to be known from the start.
-/

namespace TunnelRelay.Profile

open Text (trim trimEnd word lines joinLines)

/-- The section is a line outside the blocks with this directive, and the directive is kept. -/
def Section.gives (p : Preferences) (name : List Char) : Section → Bool
  | .top l => !(tag? (trim l)).isSome && !p.unsupported.any (·.toList = word l) && word l = name
  | .block .. => false

/-- The line that sets the verbosity to a level. -/
def verbosityLine (level : Nat) : Line := verbosityName ++ ' ' :: (toString level).toList

/-- What becomes of a section of a profile that has all these sections, and these before it. -/
def Section.normalLines (p : Preferences) (all before : List Section) : Section → List Line
  | .block tag l body closing =>
    if tag = credentialsName then [] else trim l :: (body ++ closing.toList.map trim)
  | .top l =>
    if (tag? (trim l)).isSome then [trim l]
    else if p.unsupported.any (·.toList = word l) then []
    else if word l = credentialsName then
      if before.any (·.gives p credentialsName) then [] else [credentialsName]
    else if word l = certificateName then [trim l]
    else if word l = digestName then
      if all.any (·.gives p certificateName) || before.any (·.gives p digestName) then [trim l]
      else [certificateName, trim l]
    else match p.forcedVerb with
      | some level =>
        if word l = verbosityName then
          if before.any (·.gives p verbosityName) then [] else [verbosityLine level]
        else [trimEnd l]
      | none => [trimEnd l]

/-- What is added at the end of a profile with these sections. -/
def additions (p : Preferences) (all : List Section) : List Line :=
  (if all.any (·.gives p credentialsName) then [] else [credentialsName]) ++
    (if all.any (·.gives p certificateName) || all.any (·.gives p digestName) then []
      else [certificateName]) ++
    match p.forcedVerb with
    | some level => if all.any (·.gives p verbosityName) then [] else [verbosityLine level]
    | none => []

/-- The lines of the normal form of a profile with these sections. -/
def normalLines (p : Preferences) (ss : List Section) : List Line :=
  (ss.zipIdx.flatMap fun (s, i) => s.normalLines p ss (ss.take i)) ++ additions p ss

/-! ### The rules, halfway -/

/-- The roles that were met so far. -/
structure Met where
  credentials : Bool := false
  verbosity : Bool := false
  digest : Bool := false

def Met.note (m : Met) : Role → Met
  | .credentials => { m with credentials := true }
  | .verbosity => { m with verbosity := true }
  | .digest => { m with digest := true }
  | .certificate | .plain => m

def keepFirstFrom (r : Role) (met : Bool) (is : List Item) : List Item :=
  if met then is.filter (·.role ≠ r) else keepFirst r is

def ensureLastFrom (i : Item) (met : Bool) (is : List Item) : List Item :=
  if met then is else ensureLast i is

def insertBeforeFrom (r : Role) (i : Item) (met : Bool) (is : List Item) : List Item :=
  if met then is else insertBefore r i is

def ensureVerbosityFrom (p : Preferences) (met : Bool) (is : List Item) : List Item :=
  match p.forcedVerb with
  | some level => ensureLastFrom (verbosityItem level) met is
  | none => is

/-- What the rules make of the items that are left. `certified` tells whether the certificate rule
is anywhere in the profile. -/
def restFrom (p : Preferences) (certified : Bool) (m : Met) (is : List Item) : List Item :=
  ensureVerbosityFrom p m.verbosity <|
    insertBeforeFrom .digest certificateItem (certified || m.digest) <|
      ensureLastFrom credentialsItem m.credentials <|
        keepFirstFrom .verbosity m.verbosity <| keepFirstFrom .credentials m.credentials is

theorem keepFirstFrom_cons (r : Role) (met : Bool) (i : Item) (is : List Item) :
    keepFirstFrom r met (i :: is) =
      if i.role = r then (if met then [] else [i]) ++ keepFirstFrom r true is
      else i :: keepFirstFrom r met is := by
  by_cases hr : i.role = r <;> cases met <;> simp [keepFirstFrom, keepFirst, hr]

theorem ensureLastFrom_cons (i j : Item) (met : Bool) (is : List Item) :
    ensureLastFrom i met (j :: is) = j :: ensureLastFrom i (met || j.role = i.role) is := by
  by_cases hr : j.role = i.role
  · cases met <;> simp [ensureLastFrom, ensureLast, hr]
  · cases met with
    | true => simp [ensureLastFrom]
    | false =>
      by_cases ha : is.any (·.role = i.role) <;> simp [ensureLastFrom, ensureLast, hr, ha]

theorem insertBeforeFrom_cons (r : Role) (i j : Item) (met : Bool) (is : List Item) :
    insertBeforeFrom r i met (j :: is) =
      if j.role = r then (if met then [j] else [i, j]) ++ insertBeforeFrom r i true is
      else j :: insertBeforeFrom r i met is := by
  by_cases hr : j.role = r <;> cases met <;> simp [insertBeforeFrom, insertBefore, hr]

theorem ensureVerbosityFrom_cons (p : Preferences) (met : Bool) (i : Item) (is : List Item) :
    ensureVerbosityFrom p met (i :: is) =
      i :: ensureVerbosityFrom p (met || i.role = .verbosity) is := by
  rw [ensureVerbosityFrom, ensureVerbosityFrom]
  cases p.forcedVerb with
  | none => rfl
  | some level => exact ensureLastFrom_cons (verbosityItem level) i met is

/-- What the rules make of one item. -/
def place (certified : Bool) (m : Met) (i : Item) : List Item :=
  match i.role with
  | .credentials => if m.credentials then [] else [i]
  | .verbosity => if m.verbosity then [] else [i]
  | .digest => if certified || m.digest then [i] else [certificateItem, i]
  | .certificate | .plain => [i]

/-- The rules take one item after the other. -/
theorem restFrom_cons (p : Preferences) (certified : Bool) (m : Met) (i : Item) (is : List Item) :
    restFrom p certified m (i :: is) =
      place certified m i ++ restFrom p certified (m.note i.role) is := by
  obtain ⟨r, t⟩ := i
  obtain ⟨credentials, verbosity, digest⟩ := m
  -- Of what was met only the flag of the item's own role decides.
  cases r with
  | credentials =>
    cases credentials <;> simp [restFrom, place, Met.note, keepFirstFrom_cons, ensureLastFrom_cons,
      insertBeforeFrom_cons, ensureVerbosityFrom_cons, credentialsItem]
  | verbosity =>
    cases verbosity <;> simp [restFrom, place, Met.note, keepFirstFrom_cons, ensureLastFrom_cons,
      insertBeforeFrom_cons, ensureVerbosityFrom_cons, credentialsItem]
  | digest =>
    cases hd : certified || digest <;> simp [restFrom, place, Met.note, keepFirstFrom_cons,
      ensureLastFrom_cons, insertBeforeFrom_cons, ensureVerbosityFrom_cons, credentialsItem,
      certificateItem, hd]
  | certificate | plain =>
    simp [restFrom, place, Met.note, keepFirstFrom_cons, ensureLastFrom_cons,
      insertBeforeFrom_cons, ensureVerbosityFrom_cons, credentialsItem]

/-- At the end the rules add what was not met. -/
theorem restFrom_nil (p : Preferences) (certified : Bool) (m : Met) :
    restFrom p certified m [] = (if m.credentials then [] else [credentialsItem]) ++
      ((if certified || m.digest then [] else [certificateItem]) ++
        ensureVerbosityFrom p m.verbosity []) := by
  have hkeep (r : Role) (met : Bool) : keepFirstFrom r met [] = [] := by cases met <;> rfl
  have hrole (met : Bool) (i : Item) (hi : i.role ≠ .verbosity) (is : List Item) :
      ensureVerbosityFrom p met (i :: is) = i :: ensureVerbosityFrom p met is := by
    rw [ensureVerbosityFrom_cons, decide_eq_false hi, Bool.or_false]
  have hcredentials := hrole m.verbosity credentialsItem nofun
  have hcertificate := hrole m.verbosity certificateItem nofun
  have hdigest : ¬credentialsItem.role = .digest := nofun
  rw [restFrom, hkeep, hkeep]
  cases hc : m.credentials <;> cases hd : certified || m.digest <;>
    simp [ensureLastFrom, ensureLast, insertBeforeFrom, insertBefore, hcredentials, hcertificate,
      hdigest]

theorem restFrom_of_plain (p : Preferences) (certified : Bool) (m : Met) {is : List Item}
    (h : ∀ i ∈ is, i.role = .plain) (js : List Item) :
    restFrom p certified m (is ++ js) = is ++ restFrom p certified m js := by
  induction is with
  | nil => rfl
  | cons i is ih =>
    have hi := h i List.mem_cons_self
    rw [List.cons_append, restFrom_cons, place, hi, Met.note,
      ih fun j hj => h j (List.mem_cons_of_mem _ hj)]
    rfl

theorem any_keepFirst (r q : Role) (h : r ≠ q) (is : List Item) :
    (keepFirst r is).any (·.role = q) = is.any (·.role = q) := by
  induction is with
  | nil => rfl
  | cons i is ih =>
    rw [keepFirst]
    split
    · rw [List.any_cons, List.any_cons, List.any_filter]
      congr 2
      funext j
      by_cases hj : j.role = q <;> simp [hj, h.symm]
    · rw [List.any_cons, List.any_cons, ih]

theorem any_ensureLast (i : Item) (q : Role) (h : i.role ≠ q) (is : List Item) :
    (ensureLast i is).any (·.role = q) = is.any (·.role = q) := by
  rw [ensureLast]
  split
  · rfl
  · simp [h]

/-- The items of a section, before the rules. -/
def Section.items (p : Preferences) (s : Section) : List Item := s.outline.filterMap (item? p)

theorem normalItems_eq_restFrom (p : Preferences) {ls : List Line} {ss : List Section}
    (h : Divides ls ss) : normalItems p ls =
      restFrom p ((ss.flatMap (·.items p)).any (·.role = .certificate)) {}
        (ss.flatMap (·.items p)) := by
  have hitems : (outline opensBlock ls).filterMap (item? p) = ss.flatMap (·.items p) := by
    rw [outline_of_divides h, List.filterMap_flatMap]
    rfl
  have hcertified (is : List Item) :
      (ensureLast credentialsItem (keepFirst .verbosity (keepFirst .credentials is))).any
        (·.role = .certificate) = is.any (·.role = .certificate) := by
    rw [any_ensureLast credentialsItem .certificate nofun,
      any_keepFirst .verbosity .certificate nofun, any_keepFirst .credentials .certificate nofun]
  rw [normalItems, hitems, ensureCertificate, hcertified, restFrom, Bool.or_false]
  rfl

/-! ### Section by section -/

/-- What was met in these sections. -/
def metIn (p : Preferences) (ss : List Section) : Met where
  credentials := ss.any (·.gives p credentialsName)
  verbosity := p.forcedVerb.isSome && ss.any (·.gives p verbosityName)
  digest := ss.any (·.gives p digestName)

theorem items_top (p : Preferences) (l : Line) :
    (Section.top l).items p = (topItem? p l).toList := by
  show [(Part.top, l)].filterMap (item? p) = _
  cases h : topItem? p l <;> simp [item?, h]

theorem items_block (p : Preferences) (tag : List Char) (l : Line) (body : List Line)
    (closing : Option Line) : (Section.block tag l body closing).items p =
      if tag = credentialsName then []
      else (trim l :: (body ++ closing.toList.map trim)).map (⟨.plain, ·⟩) := by
  by_cases h : tag = credentialsName
  · cases closing <;> simp [Section.items, Section.outline, item?, h]
  · have hbody : item? p ∘ (fun k => (Part.body tag, k)) = some ∘ fun k => ⟨.plain, k⟩ := by
      funext k
      simp [item?, h]
    cases closing <;> simp [Section.items, Section.outline, item?, h, hbody]

/-- What the rules make of a block. -/
theorem restFrom_block (p : Preferences) (certified : Bool) (m : Met) (tag : List Char) (l : Line)
    (body : List Line) (closing : Option Line) (is : List Item) :
    (restFrom p certified m ((Section.block tag l body closing).items p ++ is)).map Item.text =
      (if tag = credentialsName then [] else trim l :: (body ++ closing.toList.map trim)) ++
        (restFrom p certified m is).map Item.text := by
  rw [restFrom_of_plain]
  · rw [List.map_append, items_block]
    split
    · rfl
    · rw [List.map_map]
      exact congrArg (· ++ _) (List.map_id _)
  · intro i hi
    rw [items_block] at hi
    split at hi
    · cases hi
    · obtain ⟨k, -, rfl⟩ := List.mem_map.1 hi
      rfl

variable {p : Preferences} {l : Line}

theorem gives_of_tag (h : (tag? (trim l)).isSome) (name : List Char) :
    (Section.top l).gives p name = false := by
  rw [Section.gives, h]
  rfl

theorem gives_of_unsupported (h : p.unsupported.any (·.toList = word l)) (name : List Char) :
    (Section.top l).gives p name = false := by
  rw [Section.gives, h, Bool.not_true, Bool.and_false, Bool.false_and]

theorem gives_of_kept (ht : ¬(tag? (trim l)).isSome) (hu : ¬p.unsupported.any (·.toList = word l))
    (name : List Char) : (Section.top l).gives p name = decide (word l = name) := by
  rw [Section.gives, Bool.eq_false_iff.2 ht, Bool.eq_false_iff.2 hu]
  rfl

theorem topItem?_of_tag (h : (tag? (trim l)).isSome) : topItem? p l = some ⟨.plain, trim l⟩ := by
  rw [topItem?, if_pos h]

theorem topItem?_of_unsupported (ht : ¬(tag? (trim l)).isSome)
    (hu : p.unsupported.any (·.toList = word l)) : topItem? p l = none := by
  rw [topItem?, if_neg ht]
  dsimp only
  rw [Text.word_trim, if_pos hu]

theorem topItem?_of_kept (ht : ¬(tag? (trim l)).isSome)
    (hu : ¬p.unsupported.any (·.toList = word l)) : topItem? p l =
      if word l = credentialsName then some credentialsItem
      else if word l = certificateName then some ⟨.certificate, trim l⟩
      else if word l = digestName then some ⟨.digest, trim l⟩
      else match p.forcedVerb with
        | some level =>
          if word l = verbosityName then some (verbosityItem level) else some ⟨.plain, trimEnd l⟩
        | none => some ⟨.plain, trimEnd l⟩ := by
  rw [topItem?, if_neg ht]
  dsimp only
  rw [Text.word_trim]
  exact if_neg hu

theorem metIn_concat (ss : List Section) (s : Section) : metIn p (ss ++ [s]) =
    { credentials := (metIn p ss).credentials || s.gives p credentialsName
      verbosity := (metIn p ss).verbosity || (p.forcedVerb.isSome && s.gives p verbosityName)
      digest := (metIn p ss).digest || s.gives p digestName } := by
  simp [metIn, Bool.and_or_distrib_left]

theorem metIn_of_gives_nothing {s : Section} (h : ∀ name, s.gives p name = false)
    (ss : List Section) : metIn p (ss ++ [s]) = metIn p ss := by
  simp [metIn_concat, h]

theorem restFrom_of_dropped (h : topItem? p l = none) (certified : Bool) (m : Met)
    (is : List Item) : restFrom p certified m ((Section.top l).items p ++ is) =
      restFrom p certified m is := by
  rw [items_top, h]
  rfl

theorem restFrom_of_item {i : Item} (h : topItem? p l = some i) {certified : Bool} {m n : Met}
    {ls : List Line} (hplace : (place certified m i).map Item.text = ls) (hn : n = m.note i.role)
    (is : List Item) : (restFrom p certified m ((Section.top l).items p ++ is)).map Item.text =
      ls ++ (restFrom p certified n is).map Item.text := by
  rw [items_top, h, Option.toList_some, List.singleton_append, restFrom_cons, List.map_append,
    hplace, hn]

/-- What the rules make of a directive outside the blocks that is kept. -/
theorem restFrom_of_kept (ht : ¬(tag? (trim l)).isSome)
    (hu : ¬p.unsupported.any (·.toList = word l)) (all before : List Section) (is : List Item) :
    (restFrom p (all.any (·.gives p certificateName)) (metIn p before)
        ((Section.top l).items p ++ is)).map Item.text =
      (Section.top l).normalLines p all before ++ (restFrom p (all.any (·.gives p certificateName))
        (metIn p (before ++ [.top l])) is).map Item.text := by
  have hitem := topItem?_of_kept ht hu
  have hmet : metIn p (before ++ [.top l]) =
      { credentials := (metIn p before).credentials || decide (word l = credentialsName)
        verbosity := (metIn p before).verbosity ||
          (p.forcedVerb.isSome && decide (word l = verbosityName))
        digest := (metIn p before).digest || decide (word l = digestName) } := by
    simp only [metIn_concat, gives_of_kept ht hu]
  rw [Section.normalLines, if_neg ht, if_neg hu]
  by_cases hc : word l = credentialsName
  · have hv : credentialsName ≠ verbosityName := by decide
    have hd : credentialsName ≠ digestName := by decide
    rw [hc, decide_eq_true rfl, decide_eq_false hv, decide_eq_false hd] at hmet
    rw [if_pos hc] at hitem ⊢
    refine restFrom_of_item hitem ?_ ?_ is
    · cases hb : before.any (·.gives p credentialsName) <;>
        simp only [place, credentialsItem, metIn, hb, if_true, if_false, Bool.false_eq_true] <;> rfl
    · simp [hmet, Met.note, credentialsItem]
  · rw [if_neg hc] at hitem ⊢
    by_cases hk : word l = certificateName
    · have hv : certificateName ≠ verbosityName := by decide
      have hd : certificateName ≠ digestName := by decide
      rw [decide_eq_false hc, hk, decide_eq_false hv, decide_eq_false hd] at hmet
      rw [if_pos hk] at hitem ⊢
      refine restFrom_of_item hitem rfl ?_ is
      simp [hmet, Met.note]
    · rw [if_neg hk] at hitem ⊢
      by_cases hd : word l = digestName
      · have hv : digestName ≠ verbosityName := by decide
        rw [decide_eq_false hc, hd, decide_eq_true rfl, decide_eq_false hv] at hmet
        rw [if_pos hd] at hitem ⊢
        refine restFrom_of_item hitem ?_ ?_ is
        · dsimp only [place, metIn]
          split <;> rfl
        · simp [hmet, Met.note]
      · rw [decide_eq_false hc, decide_eq_false hd] at hmet
        rw [if_neg hd] at hitem ⊢
        cases hf : p.forcedVerb with
        | none =>
          rw [hf] at hitem hmet
          exact restFrom_of_item hitem rfl (by simp [hmet, Met.note]) is
        | some level =>
          rw [hf] at hitem hmet
          dsimp only at hitem ⊢
          by_cases hv : word l = verbosityName
          · rw [if_pos hv] at hitem ⊢
            rw [decide_eq_true hv] at hmet
            refine restFrom_of_item hitem ?_ ?_ is
            · cases hb : before.any (·.gives p verbosityName) <;>
                simp only [place, verbosityItem, metIn, hf, hb, if_true, if_false,
                  Bool.false_eq_true, Option.isSome_some, Bool.true_and] <;> rfl
            · simp [hmet, Met.note, verbosityItem]
          · rw [if_neg hv] at hitem ⊢
            rw [decide_eq_false hv] at hmet
            exact restFrom_of_item hitem rfl (by simp [hmet, Met.note]) is

/-- The rules take one section after the other. -/
theorem restFrom_section (p : Preferences) (all before : List Section) (s : Section)
    (is : List Item) :
    (restFrom p (all.any (·.gives p certificateName)) (metIn p before) (s.items p ++ is)).map
        Item.text =
      s.normalLines p all before ++ (restFrom p (all.any (·.gives p certificateName))
        (metIn p (before ++ [s])) is).map Item.text := by
  cases s with
  | block tag l body closing =>
    rw [restFrom_block, metIn_of_gives_nothing fun _ => rfl]
    rfl
  | top l =>
    by_cases ht : (tag? (trim l)).isSome
    · rw [metIn_of_gives_nothing (gives_of_tag ht), Section.normalLines, if_pos ht]
      exact restFrom_of_item (topItem?_of_tag ht) rfl rfl is
    · by_cases hu : p.unsupported.any (·.toList = word l)
      · rw [restFrom_of_dropped (topItem?_of_unsupported ht hu),
          metIn_of_gives_nothing (gives_of_unsupported hu), Section.normalLines, if_neg ht,
          if_pos hu]
        rfl
      · exact restFrom_of_kept ht hu all before is

/-- At the end the rules add what the sections do not give. -/
theorem restFrom_end (p : Preferences) (all : List Section) :
    (restFrom p (all.any (·.gives p certificateName)) (metIn p all) []).map Item.text =
      additions p all := by
  rw [restFrom_nil, additions, ensureVerbosityFrom, List.append_assoc]
  simp only [metIn, List.map_append]
  congr 1
  · exact apply_ite (List.map Item.text) _ _ _
  · congr 1
    · exact apply_ite (List.map Item.text) _ _ _
    · cases hf : p.forcedVerb with
      | none => rfl
      | some level =>
        cases all.any (·.gives p verbosityName) <;> rfl

theorem restFrom_sections (p : Preferences) (all before ss : List Section)
    (h : all = before ++ ss) :
    (restFrom p (all.any (·.gives p certificateName)) (metIn p before)
        (ss.flatMap (·.items p))).map Item.text =
      ((ss.zipIdx before.length).flatMap fun (s, i) => s.normalLines p all (all.take i)) ++
        additions p all := by
  induction ss generalizing before with
  | nil =>
    rw [List.append_nil] at h
    rw [← h]
    exact restFrom_end p all
  | cons s ss ih =>
    have htake : all.take before.length = before := by rw [h, List.take_left]
    have hrest := ih (before ++ [s]) (by rw [h, List.append_assoc]; rfl)
    rw [List.length_append, List.length_singleton] at hrest
    rw [List.flatMap_cons, restFrom_section, hrest, List.zipIdx_cons, List.flatMap_cons]
    dsimp only
    rw [htake, List.append_assoc]

theorem any_items_certificate (p : Preferences) (s : Section) :
    (s.items p).any (·.role = .certificate) = s.gives p certificateName := by
  cases s with
  | block tag l body closing =>
    rw [items_block]
    split
    · rfl
    · rw [List.any_map]
      exact List.any_eq_false.2 (by simp)
  | top l =>
    rw [items_top]
    by_cases ht : (tag? (trim l)).isSome
    · rw [topItem?_of_tag ht, gives_of_tag ht]
      rfl
    · by_cases hu : p.unsupported.any (·.toList = word l)
      · rw [topItem?_of_unsupported ht hu, gives_of_unsupported hu]
        rfl
      · rw [topItem?_of_kept ht hu, gives_of_kept ht hu]
        by_cases hc : word l = credentialsName
        · have hk : credentialsName ≠ certificateName := by decide
          rw [if_pos hc, hc, decide_eq_false hk]
          rfl
        · rw [if_neg hc]
          by_cases hk : word l = certificateName
          · rw [if_pos hk, decide_eq_true hk]
            rfl
          · rw [if_neg hk, decide_eq_false hk]
            split
            · rfl
            · split
              · split <;> rfl
              · rfl

theorem insertBefore_ne_nil (r : Role) (i : Item) (is : List Item) : insertBefore r i is ≠ [] := by
  cases is with
  | nil => exact List.cons_ne_nil _ _
  | cons j js =>
    rw [insertBefore]
    split <;> exact List.cons_ne_nil _ _

theorem ensureLast_ne_nil (i : Item) (is : List Item) : ensureLast i is ≠ [] := by
  intro h
  have hany := exists_role_ensureLast i is
  rw [h] at hany
  cases hany

theorem normalItems_ne_nil (p : Preferences) (ls : List Line) : normalItems p ls ≠ [] := by
  have hcertificate {is : List Item} (h : is ≠ []) : ensureCertificate is ≠ [] := by
    rw [ensureCertificate]
    split
    · exact h
    · exact insertBefore_ne_nil _ _ _
  have hverbosity {is : List Item} (h : is ≠ []) : ensureVerbosity p is ≠ [] := by
    rw [ensureVerbosity]
    split
    · exact ensureLast_ne_nil _ _
    · exact h
  exact hverbosity (hcertificate (ensureLast_ne_nil _ _))

/-- The lines of a text, each with its end. -/
theorem joinLines_concat {ls : List Line} (h : ls ≠ []) :
    joinLines ls ++ ['\n'] = ls.flatMap (· ++ ['\n']) := by
  induction ls with
  | nil => exact absurd rfl h
  | cons l ls ih =>
    by_cases hl : ls = []
    · rw [hl]
      simp
    · rw [Text.joinLines_cons hl, List.append_assoc, List.cons_append, ih hl, List.flatMap_cons,
        List.append_assoc]
      rfl

/-- The normal form of every profile. The lines of the profile are divided into sections in one
way only, and what becomes of each section is put together in their order. -/
theorem normalize_eq_normalLines (p : Preferences) (profile : List Char) :
    ∃ ss, (∀ ts, Divides (lines profile) ts ↔ ts = ss) ∧
      normalize p profile = (normalLines p ss).flatMap (· ++ ['\n']) := by
  obtain ⟨ss, hss⟩ := exists_divides (lines profile)
  have hunique (ts : List Section) : Divides (lines profile) ts ↔ ts = ss := by
    constructor
    · exact fun h => h.unique hss
    · rintro rfl
      exact hss
  have hcertified : (ss.flatMap (·.items p)).any (·.role = .certificate) =
      ss.any (·.gives p certificateName) := by
    rw [List.any_flatMap]
    exact List.any_congr rfl fun s => any_items_certificate p s
  have hlines : (normalItems p (lines profile)).map Item.text = normalLines p ss := by
    have hnone : metIn p [] = {} := by simp [metIn]
    rw [normalItems_eq_restFrom p hss, hcertified, ← hnone]
    exact restFrom_sections p ss [] ss rfl
  have hne : normalLines p ss ≠ [] := by
    rw [← hlines]
    simpa using normalItems_ne_nil p (lines profile)
  exact ⟨ss, hunique, by rw [normalize, hlines, joinLines_concat hne]⟩

example : normalize { forcedVerb := some 3, unsupported := ["route"] }
    "route a\n auth SHA1\nverb 4\n<ca>\nverb 9".toList =
      "client-cert-not-required\nauth SHA1\nverb 3\n<ca>\nverb 9\nauth-user-pass\n".toList := by
  decide +kernel

end TunnelRelay.Profile
