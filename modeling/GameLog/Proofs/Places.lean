import Mathlib.Algebra.Ring.Parity
import Mathlib.Data.Option.Basic
import GameLog.Paths
import GameLog.Proofs.Outcome

/-!
# The places of a run in normal form

The paths that lead to the places of a run are followed part by part. Below the root, which is its own
parent, a path leads to a place without dots. A path that climbs above the root is not stopped there:
the first part that climbs above it stays in front, and the next one takes it away again. What is left
in front is settled by how often the path climbs above the root (`resolveDots_append_climbMark`).

Main statements:
* `isNormal_ofParts_iff`: a path leads to a place without dots exactly if it climbs above the root an
  even number of times;
* `WrittenPath.ofText_text`: the text of a place is read as the path to it;
* `places_in_normal_form`: what the places of a run are, for all directories and overrides.
-/

namespace GameLog

open GameLog.Text

/-! ## Climbing above the root -/

/-- One part applied to the parts so far, innermost first, where the root is its own parent. -/
def rootedStep (stack : List String) (part : String) : List String :=
  if part = "." then stack else if part = ".." then stack.tail else part :: stack

/-- The parts applied one after another to the parts so far, where the root is its own parent. -/
def rootedDots (stack parts : List String) : List String := parts.foldl rootedStep stack

/-- How often the root is climbed above by parts behind those so far. -/
def climbsAbove : List String → List String → Nat
  | _, [] => 0
  | stack, part :: parts =>
    (if part = ".." ∧ stack = [] then 1 else 0) + climbsAbove (rootedStep stack part) parts

/-- What is left in front of a path that climbs above the root so often. -/
def climbMark (climbs : Nat) : List String := if Even climbs then [] else [".."]

theorem climbMark_of_even {climbs : Nat} (h : Even climbs) : climbMark climbs = [] := if_pos h

theorem climbMark_of_not_even {climbs : Nat} (h : ¬Even climbs) : climbMark climbs = [".."] :=
  if_neg h

/-- One part does below a mark what it does below the root, and changes the mark if it climbs above. -/
theorem resolveStep_append_climbMark (stack : List String) (climbs : Nat) (part : String) :
    resolveStep (stack ++ climbMark climbs) part =
      rootedStep stack part ++
        climbMark (climbs + if part = ".." ∧ stack = [] then 1 else 0) := by
  unfold resolveStep rootedStep
  by_cases hdot : part = "."
  · rw [if_pos hdot, if_pos hdot, if_neg (by simp [hdot]), Nat.add_zero]
  rw [if_neg hdot, if_neg hdot]
  by_cases hup : part = ".."
  · rw [if_pos hup, if_pos hup]
    cases stack with
    | nil =>
      rw [if_pos ⟨hup, rfl⟩]
      by_cases heven : Even climbs
      · have hnext : ¬Even (climbs + 1) := fun h => (Nat.even_add_one.mp h) heven
        rw [climbMark_of_even heven, climbMark_of_not_even hnext]
        rfl
      · rw [climbMark_of_not_even heven, climbMark_of_even (Nat.even_add_one.mpr heven)]
        rfl
    | cons last stack => simp
  · rw [if_neg hup, if_neg hup, if_neg (by simp [hup]), Nat.add_zero, List.cons_append]

/-- **A path is followed below the root, with a mark in front** that tells whether it has climbed above
the root an odd number of times. -/
theorem resolveDots_append_climbMark (stack parts : List String) (climbs : Nat) :
    resolveDots (stack ++ climbMark climbs) parts =
      rootedDots stack parts ++ climbMark (climbs + climbsAbove stack parts) := by
  induction parts generalizing stack climbs with
  | nil => rfl
  | cons part parts ih =>
    change resolveDots (resolveStep (stack ++ climbMark climbs) part) parts =
      rootedDots (rootedStep stack part) parts ++ _
    rw [resolveStep_append_climbMark, ih, climbsAbove, Nat.add_assoc]

/-- No dots are left below the root. -/
theorem rootedDots_normal {stack : List String} (hstack : ∀ part ∈ stack, part ≠ "." ∧ part ≠ "..")
    (parts : List String) : ∀ part ∈ rootedDots stack parts, part ≠ "." ∧ part ≠ ".." := by
  induction parts generalizing stack with
  | nil => exact hstack
  | cons part parts ih =>
    refine @ih (rootedStep stack part) fun other hother => ?_
    unfold rootedStep at hother
    split at hother
    · exact hstack other hother
    · rename_i hdot
      split at hother
      · exact hstack other (List.mem_of_mem_tail hother)
      · rename_i hup
        rcases List.mem_cons.mp hother with rfl | hother
        · exact ⟨hdot, hup⟩
        · exact hstack other hother

/-- Every part of a resolved path was written, but for a mark in front. -/
theorem mem_of_mem_rootedDots {stack parts : List String} {part : String}
    (h : part ∈ rootedDots stack parts) : part ∈ stack ∨ part ∈ parts := by
  induction parts generalizing stack with
  | nil => exact .inl h
  | cons next parts ih =>
    rcases @ih (rootedStep stack next) h with hstep | hparts
    · unfold rootedStep at hstep
      split at hstep
      · exact .inl hstep
      · split at hstep
        · exact .inl (List.mem_of_mem_tail hstep)
        · rcases List.mem_cons.mp hstep with rfl | hstack
          · exact .inr List.mem_cons_self
          · exact .inl hstack
    · exact .inr (List.mem_cons_of_mem _ hparts)

namespace AbsolutePath

/-- **Where parts lead**: below the root, with a mark in front if they climb above it an odd number of
times. -/
theorem parts_ofParts (parts : List String) :
    (ofParts parts).parts = climbMark (climbsAbove [] parts) ++ (rootedDots [] parts).reverse := by
  have hmark : climbMark 0 = [] := rfl
  have h := resolveDots_append_climbMark [] parts 0
  rw [hmark, List.append_nil, Nat.zero_add] at h
  have hreverse : ∀ climbs, (climbMark climbs).reverse = climbMark climbs := fun climbs => by
    unfold climbMark
    split <;> rfl
  rw [ofParts, h, List.reverse_append, hreverse]

/-- A path leads to a place without dots exactly if it climbs above the root an even number of times. -/
theorem isNormal_ofParts_iff (parts : List String) :
    (ofParts parts).isNormal = true ↔ Even (climbsAbove [] parts) := by
  have hrooted := @rootedDots_normal [] (by simp) parts
  rw [isNormal, parts_ofParts, List.all_append, List.all_reverse]
  have hall : (rootedDots [] parts).all (fun part => part != "." && part != "..") = true := by
    simpa using hrooted
  rw [hall, Bool.and_true]
  by_cases heven : Even (climbsAbove [] parts)
  · simp [climbMark_of_even heven, heven]
  · simp [climbMark_of_not_even heven, heven]

/-- A place that parts lead to may stand for them in front of further parts. -/
theorem below_ofParts (parts rest : List String) :
    (ofParts parts).below rest = ofParts (parts ++ rest) := by
  have hkept : resolveDots [] (ofParts parts).parts = resolveDots [] parts := by
    have h := resolveDots_append_climbMark [] parts 0
    rw [show climbMark 0 = [] from rfl, List.append_nil, Nat.zero_add] at h
    rw [parts_ofParts, resolveDots_append, h]
    have hmark : resolveDots [] (climbMark (climbsAbove [] parts)) =
        climbMark (climbsAbove [] parts) := by
      unfold climbMark
      split <;> rfl
    rw [hmark, resolveDots_of_normal _ fun part hpart =>
      @rootedDots_normal [] (by simp) parts part (List.mem_reverse.mp hpart),
      List.reverse_reverse]
  change AbsolutePath.mk (resolveDots [] ((ofParts parts).parts ++ rest)).reverse =
    AbsolutePath.mk (resolveDots [] (parts ++ rest)).reverse
  rw [resolveDots_append, resolveDots_append, hkept]

theorem ofParts_parts_ofParts (parts : List String) : ofParts (ofParts parts).parts = ofParts parts := by
  simpa [below] using below_ofParts parts []

end AbsolutePath

/-! ## The text of a place -/

/-- The names between the slashes of a text, those left out that lead nowhere. -/
def namesBetween (cs : List Char) : List String :=
  ((cs.splitOn '/').map String.ofList).filter fun name => name != "" && name != "."

theorem namesBetween_append (a b : List Char) :
    namesBetween (a ++ '/' :: b) = namesBetween a ++ namesBetween b := by
  rw [namesBetween, List.splitOn_append_cons_self, List.map_append, List.filter_append]
  rfl

/-- **A text stands between slashes.** -/
structure IsSegment (part : String) : Prop where
  ne_empty : part ≠ ""
  no_slash : '/' ∉ part.toList

theorem not_mem_of_mem_splitOn {sep : Char} {cs segment : List Char}
    (h : segment ∈ cs.splitOn sep) : sep ∉ segment := by
  induction cs generalizing segment with
  | nil => simp_all
  | cons c cs ih =>
    rw [List.splitOn_cons_eq_if_modifyHead] at h
    split at h
    · rcases List.mem_cons.mp h with rfl | h
      · exact List.not_mem_nil
      · exact ih h
    · rename_i hc
      obtain ⟨first, rest, hsplit⟩ := List.exists_cons_of_ne_nil (List.splitOn_ne_nil sep cs)
      rw [hsplit, List.modifyHead_cons] at h
      rcases List.mem_cons.mp h with rfl | h
      · have hne : sep ≠ c := fun hsep => hc (beq_iff_eq.mpr hsep.symm)
        exact List.mem_cons.not.mpr (not_or.mpr ⟨hne, ih (hsplit ▸ List.mem_cons_self)⟩)
      · exact ih (hsplit ▸ List.mem_cons_of_mem _ h)

/-- Names with slashes between them are read one by one. -/
theorem namesBetween_intercalate {parts : List String}
    (h : ∀ part ∈ parts, IsSegment part ∧ part ≠ ".") :
    namesBetween (List.intercalate ['/'] (parts.map String.toList)) = parts := by
  cases parts with
  | nil => rfl
  | cons first rest =>
    have hslash : ∀ segment ∈ (first :: rest).map String.toList, '/' ∉ segment := by
      intro segment hsegment
      obtain ⟨part, hpart, rfl⟩ := List.mem_map.mp hsegment
      exact (h part hpart).1.no_slash
    have hback : ((first :: rest).map String.toList).map String.ofList = first :: rest := by
      rw [List.map_map]
      exact (List.map_congr_left fun part _ => String.ofList_toList).trans (List.map_id _)
    rw [namesBetween, List.splitOn_intercalate '/' hslash (by simp), hback, List.filter_eq_self]
    intro part hpart
    rw [Bool.and_eq_true, bne_iff_ne, bne_iff_ne]
    exact ⟨(h part hpart).1.ne_empty, (h part hpart).2⟩

namespace WrittenPath

theorem ofText_of_slash {text : String} {cs : List Char} (h : text.toList = '/' :: cs) :
    ofText text = ⟨text, true, namesBetween cs⟩ := by
  have hsplit : ('/' :: cs).splitOn '/' = [] :: cs.splitOn '/' :=
    List.splitOn_append_cons_self [] cs
  obtain ⟨first, rest, hrest⟩ := List.exists_cons_of_ne_nil (List.splitOn_ne_nil '/' cs)
  rw [ofText, h, hsplit, namesBetween, hrest]
  rfl

theorem ofText_tilde {tail : String} (h : tail = "" ∨ startsWith tail "/" = true) :
    ofText ("~" ++ tail) = ⟨"~" ++ tail, false, "~" :: namesBetween tail.toList⟩ := by
  rcases h with rfl | h
  · rfl
  · obtain ⟨rest, hrest⟩ := List.isPrefixOf_iff_prefix.mp h
    have htail : tail.toList = [] ++ '/' :: rest := hrest.symm
    have hsplit : ("~" ++ tail).toList.splitOn '/' = ['~'] :: rest.splitOn '/' := by
      rw [String.toList_append, htail]
      exact List.splitOn_append_cons_self ['~'] rest
    rw [ofText, hsplit, htail, namesBetween_append]
    rfl

/-- What stands behind the text of a place is read as names behind its parts. -/
theorem ofText_text_append {p : AbsolutePath} (h : ∀ part ∈ p.parts, IsSegment part ∧ part ≠ ".")
    {tail : String} (htail : tail = "" ∨ startsWith tail "/" = true) :
    ofText (p.text ++ tail) = ⟨p.text ++ tail, true, p.parts ++ namesBetween tail.toList⟩ := by
  have htext : p.text.toList = '/' :: List.intercalate ['/'] (p.parts.map String.toList) := by
    rw [AbsolutePath.text, String.toList_append, joinWith, String.toList_intercalate]
    rfl
  have hnames := namesBetween_intercalate h
  rcases htail with rfl | htail
  · rw [String.append_empty, ofText_of_slash htext, hnames]
    exact congrArg _ (List.append_nil _).symm
  · obtain ⟨rest, hrest⟩ := List.isPrefixOf_iff_prefix.mp htail
    have htail : tail.toList = [] ++ '/' :: rest := hrest.symm
    have hwhole : (p.text ++ tail).toList =
        '/' :: (List.intercalate ['/'] (p.parts.map String.toList) ++ '/' :: rest) := by
      rw [String.toList_append, htext, htail]
      rfl
    rw [ofText_of_slash hwhole, namesBetween_append, hnames, htail, namesBetween_append]
    rfl

/-- **The text of a place is read as the path to it.** -/
theorem ofText_text {p : AbsolutePath} (h : ∀ part ∈ p.parts, IsSegment part ∧ part ≠ ".") :
    ofText p.text = ⟨p.text, true, p.parts⟩ := by
  have hread := @ofText_text_append p h "" (.inl rfl)
  rw [String.append_empty] at hread
  exact hread.trans (congrArg _ (List.append_nil _))

/-- The parts of a path as written stand between slashes. -/
theorem isSegment_of_mem_ofText {text part : String} (h : part ∈ (ofText text).parts) :
    IsSegment part := by
  have hfiltered : ∀ names : List String,
      part ∈ names.filter (fun name => name != "" && name != ".") → part ∈ names ∧ part ≠ "" := by
    intro names hpart
    obtain ⟨hnames, hkept⟩ := List.mem_filter.mp hpart
    rw [Bool.and_eq_true, bne_iff_ne] at hkept
    exact ⟨hnames, hkept.1⟩
  have hmem : part ∈ ((text.toList.splitOn '/').map String.ofList) ∧ part ≠ "" := by
    unfold ofText at h
    simp only at h
    split at h
    · rename_i rest hsegments
      rw [hsegments]
      exact ⟨List.mem_cons_of_mem _ (hfiltered _ h).1, (hfiltered _ h).2⟩
    · rename_i rest hsegments
      rw [hsegments]
      rcases List.mem_cons.mp h with rfl | hrest
      · exact ⟨List.mem_cons_self, by decide⟩
      · exact ⟨List.mem_cons_of_mem _ (hfiltered _ hrest).1, (hfiltered _ hrest).2⟩
    · exact hfiltered _ h
  obtain ⟨segment, hsegment, rfl⟩ := List.mem_map.mp hmem.1
  exact ⟨hmem.2, by simpa using not_mem_of_mem_splitOn hsegment⟩

end WrittenPath

/-! ## The parts that lead to a place -/

/-- The parts from the root on that a path means for a user, dots included. -/
def WrittenPath.fromRoot (home work : List String) (path : WrittenPath) : List String :=
  if path.absolute then path.parts
  else match path.parts with
    | [] => work
    | first :: rest => if first = "~" then home ++ rest else work ++ first :: rest

/-- A user means the place that the parts from the root on lead to. -/
theorem resolveUser_eq_ok {home work : List String} {path : WrittenPath} {p : AbsolutePath}
    (h : resolveUser (.ofParts home) (.ofParts work) path = .ok p) :
    p = .ofParts (path.fromRoot home work) := by
  unfold resolveUser at h
  unfold WrittenPath.fromRoot
  split at h
  · rename_i habsolute
    rw [if_pos habsolute]
    exact (Except.ok.inj h).symm
  · rename_i habsolute
    rw [if_neg habsolute]
    split at h
    · rename_i first rest hparts
      split at h
      · rename_i htilde
        rw [hparts]
        simp only [if_pos htilde]
        rw [← AbsolutePath.below_ofParts]
        exact (Except.ok.inj h).symm
      · rename_i htilde
        split at h
        · cases h
        · rw [hparts]
          simp only [if_neg htilde]
          rw [← AbsolutePath.below_ofParts, ← hparts]
          exact (Except.ok.inj h).symm
    · rename_i hparts
      rw [hparts]
      obtain rfl := Except.ok.inj h
      rw [AbsolutePath.below_ofParts, List.append_nil]

/-- **Parts lead to a place**: it is absolute and says so, it lies below the root behind a mark, and it
has no dots exactly if the parts climb above the root an even number of times. -/
structure AbsolutePath.LedToBy (p : AbsolutePath) (parts : List String) : Prop where
  read : WrittenPath.ofText p.text = ⟨p.text, true, p.parts⟩
  parts_eq : p.parts = climbMark (climbsAbove [] parts) ++ (rootedDots [] parts).reverse
  rooted : ∀ part ∈ rootedDots [] parts, part ≠ "." ∧ part ≠ ".."
  normal_iff : p.isNormal = true ↔ Even (climbsAbove [] parts)

theorem AbsolutePath.isSegment_of_mem_ofParts {parts : List String}
    (h : ∀ part ∈ parts, IsSegment part) :
    ∀ part ∈ (ofParts parts).parts, IsSegment part ∧ part ≠ "." := by
  have hup : IsSegment ".." := ⟨by decide, by decide⟩
  intro part hpart
  rw [parts_ofParts] at hpart
  rcases List.mem_append.mp hpart with hmark | hrooted
  · have hname : part = ".." := by
      unfold climbMark at hmark
      split at hmark
      · cases hmark
      · exact List.mem_singleton.mp hmark
    rw [hname]
    exact ⟨hup, by decide⟩
  · have hmem := List.mem_reverse.mp hrooted
    have hwritten := mem_of_mem_rootedDots hmem
    exact ⟨h part (hwritten.resolve_left List.not_mem_nil),
      (@rootedDots_normal [] (by simp) parts part hmem).1⟩

theorem AbsolutePath.ledToBy_ofParts {parts : List String} (h : ∀ part ∈ parts, IsSegment part) :
    (ofParts parts).LedToBy parts where
  read := WrittenPath.ofText_text (isSegment_of_mem_ofParts h)
  parts_eq := parts_ofParts parts
  rooted := rootedDots_normal (by simp) parts
  normal_iff := isNormal_ofParts_iff parts

theorem WrittenPath.isSegment_of_mem_fromRoot {home work : List String} {path : WrittenPath}
    (hhome : ∀ part ∈ home, IsSegment part) (hwork : ∀ part ∈ work, IsSegment part)
    (hpath : ∀ part ∈ path.parts, IsSegment part) :
    ∀ part ∈ path.fromRoot home work, IsSegment part := by
  unfold fromRoot
  split
  · exact hpath
  · split
    · exact hwork
    · rename_i first rest hparts
      rw [hparts] at hpath
      split
      · exact List.forall_mem_append.mpr ⟨hhome, fun part hpart => hpath part (by simp [hpart])⟩
      · exact List.forall_mem_append.mpr ⟨hwork, hpath⟩

/-! ## The places of a run -/

/-- The parts from the root on that an override means. -/
def placeParts (home work text : String) : List String :=
  (WrittenPath.ofText text).fromRoot (WrittenPath.ofText home).parts (WrittenPath.ofText work).parts

/-- The parts from the root on that lead to the database. -/
def databaseParts (home work : String) (database : Option String) : List String :=
  database.elim ((WrittenPath.ofText home).parts ++ defaultDatabase) (placeParts home work)

theorem isSegment_of_mem_placeParts (home work text : String) :
    ∀ part ∈ placeParts home work text, IsSegment part :=
  WrittenPath.isSegment_of_mem_fromRoot (fun _ => WrittenPath.isSegment_of_mem_ofText)
    (fun _ => WrittenPath.isSegment_of_mem_ofText) fun _ => WrittenPath.isSegment_of_mem_ofText

theorem isSegment_of_mem_databaseParts (home work : String) (database : Option String) :
    ∀ part ∈ databaseParts home work database, IsSegment part := by
  cases database with
  | none =>
    have hdefault : ∀ part ∈ defaultDatabase, IsSegment part := by
      simp only [defaultDatabase, List.forall_mem_cons]
      exact ⟨⟨by decide, by decide⟩, ⟨by decide, by decide⟩, nofun⟩
    exact List.forall_mem_append.mpr ⟨fun _ => WrittenPath.isSegment_of_mem_ofText, hdefault⟩
  | some text => exact isSegment_of_mem_placeParts home work text

section Resolving

variable {home work : String} {database catalog : Option String} {places : Places}

theorem absolute_of_resolvePlaces (h : resolvePlaces home work database catalog = .ok places) :
    (WrittenPath.ofText home).absolute = true ∧ (WrittenPath.ofText work).absolute = true := by
  unfold resolvePlaces at h
  cases hhome : (WrittenPath.ofText home).absolute with
  | false =>
    simp only [hhome] at h
    cases h
  | true =>
    cases hwork : (WrittenPath.ofText work).absolute with
    | false =>
      simp only [hhome, hwork] at h
      cases h
    | true => exact ⟨rfl, rfl⟩

/-- Places are resolved one by one from absolute directories. -/
theorem resolvePlaces_eq (hhome : (WrittenPath.ofText home).absolute = true)
    (hwork : (WrittenPath.ofText work).absolute = true) (database catalog : Option String) :
    resolvePlaces home work database catalog =
      let homePlace := AbsolutePath.ofParts (WrittenPath.ofText home).parts
      let workPlace := AbsolutePath.ofParts (WrittenPath.ofText work).parts
      (database.elim (.ok (homePlace.below defaultDatabase)) fun text =>
        resolveUser homePlace workPlace (.ofText text)) >>= fun databasePlace =>
      (catalog.elim (.ok none) fun text =>
        (resolveUser homePlace workPlace (.ofText text)).map some) >>= fun catalogPlace =>
      .ok ⟨homePlace, workPlace, databasePlace, catalogPlace⟩ := by
  unfold resolvePlaces
  simp only [hhome, hwork]
  cases database <;> cases catalog <;> rfl

/-- **Each place is where its parts lead from the root on.** -/
theorem of_resolvePlaces (h : resolvePlaces home work database catalog = .ok places) :
    places.home = .ofParts (WrittenPath.ofText home).parts ∧
      places.work = .ofParts (WrittenPath.ofText work).parts ∧
      places.database = .ofParts (databaseParts home work database) ∧
      places.catalog = catalog.map fun text => .ofParts (placeParts home work text) := by
  obtain ⟨hhome, hwork⟩ := absolute_of_resolvePlaces h
  rw [resolvePlaces_eq hhome hwork] at h
  obtain ⟨databasePlace, hdatabase, h⟩ := bind_eq_ok.mp h
  obtain ⟨catalogPlace, hcatalog, h⟩ := bind_eq_ok.mp h
  obtain rfl := Except.ok.inj h
  refine ⟨rfl, rfl, ?_, ?_⟩
  · cases database with
    | none =>
      rw [databaseParts, Option.elim_none, ← AbsolutePath.below_ofParts]
      exact (Except.ok.inj hdatabase).symm
    | some text => exact resolveUser_eq_ok hdatabase
  · cases catalog with
    | none => exact (Except.ok.inj hcatalog).symm
    | some text =>
      obtain ⟨place, hplace, rfl⟩ := map_eq_ok.mp hcatalog
      exact congrArg some (resolveUser_eq_ok hplace)

theorem resolveUser_tilde {homePlace : AbsolutePath} (workPlace : AbsolutePath)
    (h : ∀ part ∈ homePlace.parts, IsSegment part ∧ part ≠ ".") {tail : String}
    (htail : tail = "" ∨ startsWith tail "/" = true) :
    resolveUser homePlace workPlace (.ofText ("~" ++ tail)) =
      resolveUser homePlace workPlace (.ofText (homePlace.text ++ tail)) := by
  rw [WrittenPath.ofText_tilde htail, WrittenPath.ofText_text_append h htail]
  rfl

theorem resolveUser_text {parts : List String} (homePlace workPlace : AbsolutePath)
    (h : ∀ part ∈ parts, IsSegment part) :
    resolveUser homePlace workPlace (.ofText (AbsolutePath.ofParts parts).text) =
      .ok (.ofParts parts) := by
  rw [WrittenPath.ofText_text (AbsolutePath.isSegment_of_mem_ofParts h)]
  exact congrArg Except.ok (AbsolutePath.ofParts_parts_ofParts parts)

/-- **The texts of places lead to the places.** -/
theorem resolvePlaces_text {homeParts workParts parts : List String}
    {catalogParts : Option (List String)} (hhome : ∀ part ∈ homeParts, IsSegment part)
    (hwork : ∀ part ∈ workParts, IsSegment part) (hparts : ∀ part ∈ parts, IsSegment part)
    (hcatalog : ∀ parts ∈ catalogParts, ∀ part ∈ parts, IsSegment part) :
    resolvePlaces (AbsolutePath.ofParts homeParts).text (AbsolutePath.ofParts workParts).text
        (some (AbsolutePath.ofParts parts).text)
        ((catalogParts.map AbsolutePath.ofParts).map AbsolutePath.text) =
      .ok ⟨.ofParts homeParts, .ofParts workParts, .ofParts parts,
        catalogParts.map AbsolutePath.ofParts⟩ := by
  have hhomeRead := WrittenPath.ofText_text (AbsolutePath.isSegment_of_mem_ofParts hhome)
  have hworkRead := WrittenPath.ofText_text (AbsolutePath.isSegment_of_mem_ofParts hwork)
  rw [resolvePlaces_eq (by rw [hhomeRead]) (by rw [hworkRead]), hhomeRead, hworkRead]
  simp only [AbsolutePath.ofParts_parts_ofParts, Option.elim_some, resolveUser_text _ _ hparts]
  cases catalogParts with
  | none => rfl
  | some named =>
    simp only [Option.map_some, Option.elim_some, resolveUser_text _ _ (hcatalog named rfl)]
    rfl

/-- **The places of a run are absolute and have no dots but for a mark in front.** Each lies where its
path leads below the root, and has no dots exactly if the path climbs above the root an even number of
times. A tilde stands for the text of the home directory. The texts of the places lead to the places. -/
theorem places_in_normal_form (h : resolvePlaces home work database catalog = .ok places) :
    places.home.LedToBy (WrittenPath.ofText home).parts ∧
      places.work.LedToBy (WrittenPath.ofText work).parts ∧
      places.database.LedToBy (databaseParts home work database) ∧
      Option.Rel (fun text (place : AbsolutePath) => place.LedToBy (placeParts home work text))
        catalog places.catalog ∧
      (∀ tail, tail = "" ∨ startsWith tail "/" = true →
        (∀ other, resolvePlaces home work (some ("~" ++ tail)) other =
          resolvePlaces home work (some (places.home.text ++ tail)) other) ∧
        ∀ other, resolvePlaces home work other (some ("~" ++ tail)) =
          resolvePlaces home work other (some (places.home.text ++ tail))) ∧
      resolvePlaces places.home.text places.work.text (some places.database.text)
        (places.catalog.map AbsolutePath.text) = .ok places := by
  obtain ⟨hhome, hwork⟩ := absolute_of_resolvePlaces h
  obtain ⟨hhomePlace, hworkPlace, hdatabasePlace, hcatalogPlace⟩ := of_resolvePlaces h
  have hhomeParts : ∀ part ∈ (WrittenPath.ofText home).parts, IsSegment part :=
    fun _ => WrittenPath.isSegment_of_mem_ofText
  have hworkParts : ∀ part ∈ (WrittenPath.ofText work).parts, IsSegment part :=
    fun _ => WrittenPath.isSegment_of_mem_ofText
  have hdatabaseParts := isSegment_of_mem_databaseParts home work database
  refine ⟨?_, ?_, ?_, ?_, fun tail htail => ?_, ?_⟩
  · rw [hhomePlace]
    exact AbsolutePath.ledToBy_ofParts hhomeParts
  · rw [hworkPlace]
    exact AbsolutePath.ledToBy_ofParts hworkParts
  · rw [hdatabasePlace]
    exact AbsolutePath.ledToBy_ofParts hdatabaseParts
  · rw [hcatalogPlace]
    cases catalog with
    | none => exact .none
    | some text =>
      exact .some (AbsolutePath.ledToBy_ofParts (isSegment_of_mem_placeParts home work text))
  · have htilde : ∀ workPlace, resolveUser places.home workPlace (.ofText ("~" ++ tail)) =
        resolveUser places.home workPlace (.ofText (places.home.text ++ tail)) := fun workPlace =>
      resolveUser_tilde workPlace
        (hhomePlace ▸ AbsolutePath.isSegment_of_mem_ofParts hhomeParts) htail
    constructor
    · intro other
      rw [resolvePlaces_eq hhome hwork, resolvePlaces_eq hhome hwork, ← hhomePlace]
      simp only [Option.elim_some, htilde]
    · intro other
      rw [resolvePlaces_eq hhome hwork, resolvePlaces_eq hhome hwork, ← hhomePlace]
      simp only [Option.elim_some, htilde]
  · have hcatalogParts : ∀ parts ∈ catalog.map (placeParts home work), ∀ part ∈ parts,
        IsSegment part := by
      intro parts hparts
      obtain ⟨text, -, rfl⟩ := Option.map_eq_some_iff.mp hparts
      exact isSegment_of_mem_placeParts home work text
    have hagain := resolvePlaces_text hhomeParts hworkParts hdatabaseParts hcatalogParts
    have hcatalogMap : (catalog.map (placeParts home work)).map AbsolutePath.ofParts =
        places.catalog := by
      rw [hcatalogPlace, Option.map_map]
      rfl
    rw [hcatalogMap, ← hhomePlace, ← hworkPlace, ← hdatabasePlace] at hagain
    exact hagain

/-- A path may climb above the root once, which leaves a mark, or twice, which leaves none. -/
theorem climbing_places_in_normal_form :
    resolvePlaces "/home/./t" "/w" (some "~/../../../x") (some "../../..//a/./b") =
        .ok ⟨⟨["home", "t"]⟩, ⟨["w"]⟩, ⟨["..", "x"]⟩, some ⟨["a", "b"]⟩⟩ ∧
      ¬Even (climbsAbove [] (databaseParts "/home/./t" "/w" (some "~/../../../x"))) ∧
      AbsolutePath.LedToBy ⟨["..", "x"]⟩
        (databaseParts "/home/./t" "/w" (some "~/../../../x")) ∧
      resolvePlaces "/home/t" "/w" (some "/../x") (some "/a/b") =
        .ok ⟨⟨["home", "t"]⟩, ⟨["w"]⟩, ⟨["..", "x"]⟩, some ⟨["a", "b"]⟩⟩ := by
  have h : resolvePlaces "/home/./t" "/w" (some "~/../../../x") (some "../../..//a/./b") =
      .ok ⟨⟨["home", "t"]⟩, ⟨["w"]⟩, ⟨["..", "x"]⟩, some ⟨["a", "b"]⟩⟩ := rfl
  obtain ⟨-, -, hdatabase, -, -, hagain⟩ := places_in_normal_form h
  exact ⟨h, by decide, hdatabase, hagain⟩

/-- **Not every place is without dots**: a path that climbs above the root once keeps a mark. -/
theorem climb_leaves_mark :
    ¬∀ home work database catalog places,
      resolvePlaces home work database catalog = .ok places →
        places.home.isNormal = true ∧ places.work.isNormal = true ∧
          places.database.isNormal = true ∧ ∀ place ∈ places.catalog, place.isNormal = true := by
  intro hall
  have h : resolvePlaces "/home/t" "/w" (some "../../x") none =
      .ok ⟨⟨["home", "t"]⟩, ⟨["w"]⟩, ⟨["..", "x"]⟩, none⟩ := rfl
  exact absurd (hall _ _ _ _ _ h).2.2.1 (by decide)

end Resolving

end GameLog
