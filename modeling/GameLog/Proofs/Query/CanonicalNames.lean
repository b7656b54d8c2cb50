import GameLog.Catalog.Builtin
import GameLog.Proofs.Catalog.RoundTrip
import GameLog.Proofs.Query.GroupNames
import GameLog.Proofs.Store.Declared

/-!
# Canonical names

The canonical form of a name is folded, has aliases resolved, and keeps the short name of a table in front
of it. It is the name of a field or of a milestone type, alone or behind the short name of the table that
it belongs to. A catalog is settled if none of its own names is an alias of something else. A canonical
name is then its own canonical form, so that whatever prints one can be read again.

Main statements:
* `settled_builtin`: the built-in catalog is settled;
* `Owned.of_canonical`: a canonical name is one that a catalog has, alone or behind a table;
* `Owned.canonical_eq`: such a name is its own canonical form.
-/

namespace GameLog

open GameLog.Text

/-! ## Settled catalogs -/

namespace Catalog

/-- The names of all fields and milestone types of a catalog. -/
def ownNames (c : Catalog) : List String :=
  (c.gameFields ++ c.milestoneFields).map FieldSpec.name ++ c.milestoneTypes.names

/-- **A name is settled in a catalog** if it has the form of names, is not that for the count, and is no
alias of something else. -/
structure SettledName (c : Catalog) (name : String) : Prop where
  isName : isName name.toList = true
  ne_count : lower name ≠ "n"
  canonical : c.canonicalName name = name

/-- **A catalog is settled** if its names are folded, and each of its own names is settled. -/
structure Settled (c : Catalog) : Prop where
  folded : c.IsFolded
  names : ∀ name ∈ c.ownNames, c.SettledName name

/-- The built-in catalog is settled. -/
theorem settled_builtin : Catalog.builtin.Settled := by
  refine ⟨isFolded_assemble _, fun name hname => ?_⟩
  have hall : Catalog.builtin.ownNames.all (fun name => isName name.toList && lower name != "n" &&
      Catalog.builtin.canonicalName name == name) = true := by
    decide +kernel
  have hone := List.all_eq_true.mp hall name hname
  simp only [Bool.and_eq_true, bne_iff_ne, beq_iff_eq] at hone
  exact ⟨hone.1.1, hone.1.2, hone.2⟩

theorem lower_canonicalName {c : Catalog} (h : c.IsFolded) (name : String) :
    lower (c.canonicalName name) = c.canonicalName name := by
  unfold canonicalName
  dsimp only
  cases hfound : c.aliases.find? (lower (trim name)) with
  | none => exact lower_lower _
  | some target => exact (h.aliases _ (Dictionary.mem_of_find? hfound)).2

end Catalog

namespace Scope

variable {s : Scope} {name raw : String}

/-- What owns a name in a context has it among the names of the catalog. -/
theorem mem_ownNames_of_ownerIn? {c : Catalog} {context : Context} {owner : Owner}
    (h : ownerIn? c context name = some owner) : name ∈ c.ownNames := by
  rw [Catalog.ownNames, List.mem_append]
  unfold ownerIn? at h
  split at h
  · rename_i spec hspec
    have hname : spec.name = name := by simpa using List.find?_some hspec
    have hmem : spec ∈ c.gameFields ++ c.milestoneFields := by
      have hfields := List.mem_of_find?_eq_some hspec
      cases context with
      | game => exact List.mem_append_left _ hfields
      | milestone => exact List.mem_append_right _ hfields
    exact .inl (List.mem_map.mpr ⟨spec, hmem, hname⟩)
  · split at h
    · rename_i hpivot
      cases context with
      | game => cases hpivot
      | milestone => exact .inr (Dictionary.mem_names_of_contains hpivot)
    · cases h

/-! ## The form of canonical names -/

/-- **A name is one that the catalog has**, alone or behind the short name of a table. -/
inductive Owned (s : Scope) (name : String) : Prop
  | alone (hname : name ∈ s.catalog.ownNames) (hsplit : splitName name = (none, name))
  | behind (context : Context) (base : String) (hbase : base ∈ s.catalog.ownNames)
      (hname : name = context.short ++ ":" ++ base)
      (hsplit : splitName name = (some context.short, base))

theorem lower_spell (h : s.catalog.IsFolded) (raw : String) : lower (s.spell raw) = s.spell raw := by
  unfold spell
  split
  · rw [lower_append, lower_append, lower_lower, Catalog.lower_canonicalName h]
    rfl
  · exact Catalog.lower_canonicalName h _

/-- A folded name that something owns is one that the catalog has. -/
theorem owned_of_resolve? {owner : Owner} (h : s.resolve? name = some owner)
    (hfolded : lower name = name) : s.Owned name := by
  have hsplit := eq_of_splitName name
  have hlower := splitName_lower name
  rw [hfolded] at hlower
  unfold resolve? at h
  split at h
  · rename_i table base hparts
    rw [hparts] at hsplit hlower
    obtain ⟨context, hcontext, howner⟩ := Option.bind_eq_some_iff.mp h
    have hshort : table = context.short := by
      have htable : table = lower table := Option.some.inj (Prod.mk.inj hlower).1
      have hsame := List.find?_some hcontext
      rw [sameLetters, beq_iff_eq] at hsame
      rw [htable, hsame]
      cases context <;> decide
    subst hshort
    exact .behind context base (mem_ownNames_of_ownerIn? howner) hsplit hparts
  · rename_i base hparts
    obtain ⟨context, -, howner⟩ := List.exists_of_findSome?_eq_some h
    rw [hparts] at hsplit
    obtain rfl : name = base := by simpa using hsplit
    exact .alone (mem_ownNames_of_ownerIn? howner) hparts

/-- **A canonical name is one that the catalog has**, alone or behind the short name of a table. -/
theorem Owned.of_canonical (hfolded : s.catalog.IsFolded) (h : s.canonical raw = .ok name) :
    s.Owned name := by
  obtain ⟨owner, howner⟩ := Option.isSome_iff_exists.mp (canonical_resolves h)
  refine owned_of_resolve? howner ?_
  unfold canonical at h
  split at h
  · rw [← Except.ok.inj h]
    exact lower_spell hfolded raw
  · cases h

/-! ## Reading canonical names -/

namespace Owned

variable (hsettled : s.catalog.Settled) (h : s.Owned name)
include hsettled h

theorem isName : isName name.toList = true := by
  cases h with
  | alone hname => exact (hsettled.names name hname).isName
  | behind context base hbase hname =>
    have hchars := isNameChar_of_isName (hsettled.names base hbase).isName
    have hbehind : base.toList.all isNameChar = true := List.all_eq_true.mpr hchars
    subst hname
    cases context <;>
      simp [String.toList_append, Context.short, GameLog.isName, hbehind] <;> decide

theorem ne_count : lower name ≠ "n" := by
  cases h with
  | alone hname => exact (hsettled.names name hname).ne_count
  | behind context base hbase hname hsplit =>
    intro hcount
    have hlower := splitName_lower name
    have hplain : splitName "n" = (none, "n") := by decide
    rw [hcount, hplain, hsplit] at hlower
    cases hlower

/-- **A name that a settled catalog has is its own canonical form**, if something in scope owns it. -/
theorem canonical_eq (howner : (s.resolve? name).isSome = true) : s.canonical name = .ok name := by
  have htrim : trim name = name := by
    rw [trim, trimmed_of_isName (h.isName hsettled), String.ofList_toList]
  have hspell : s.spell name = name := by
    cases h with
    | alone hname hsplit =>
      rw [spell, htrim, hsplit]
      exact (hsettled.names name hname).canonical
    | behind context base hbase hname hsplit =>
      have hshort : lower context.short = context.short := by cases context <;> decide
      rw [spell, htrim, hsplit]
      dsimp only
      rw [(hsettled.names base hbase).canonical, hshort, hname]
  rw [canonical, hspell, if_pos howner]

end Owned

/-- **The canonical form of a canonical name is that name**, in a settled catalog. -/
theorem canonical_canonical (hsettled : s.catalog.Settled) (h : s.canonical raw = .ok name) :
    s.canonical name = .ok name :=
  (Owned.of_canonical hsettled.folded h).canonical_eq hsettled (canonical_resolves h)

end Scope

end GameLog
