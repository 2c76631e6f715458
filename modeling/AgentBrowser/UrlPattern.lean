import AgentBrowser.Backtracking
import AgentBrowser.RetainedBrowser

namespace AgentBrowser
open Backtracking
set_option autoImplicit true

/-- Blocks of hexadecimal digits of these lengths with dashes between them. -/
def hexGroups : List Nat → Pattern Char
  | [] => .empty
  | [len] => .times len (.one isHexDigit)
  | len :: lens => .seq (.times len (.one isHexDigit)) (.seq (.literal ['-']) (hexGroups lens))

/-- `[a-z0-9]+` -/
def slugName : Pattern Char := .plus (.one isSlugChar)

/-- `(?:-[a-z0-9]+(?:-[a-z0-9]+)*)?` -/
def optionalSlug : Pattern Char :=
  .optional (.seq (.literal ['-']) (.seq slugName (.star (.seq (.literal ['-']) slugName))))

/-- The regular expression of the scripts, between its two anchors. -/
def targetUrlPattern : Pattern Char :=
  .seq (.literal projectUrl) (.seq (.group 1 (.times 32 (.one isHexDigit))) (.seq optionalSlug
    (.seq (.literal "/c/".toList) (.group 2 (hexGroups [8, 4, 4, 4, 12])))))

namespace Script

/-- A match is anchored at both ends, so that it is of the whole text. -/
def retainedTargetUrlsMatch (expected observed : Option JsonValue) : Bool :=
  match expected, observed with
  | some (.string expected), some (.string observed) =>
    expected = observed ||
      match matchWhole targetUrlPattern expected.toList,
        matchWhole targetUrlPattern observed.toList with
      | some left, some right =>
        left.lookup 1 = right.lookup 1 && left.lookup 2 = right.lookup 2
      | _, _ => false
  | _, _ => false

end Script

section Pattern

theorem yields_hexGroups : Yields (hexGroups lens) u gs gs' ↔
    gs' = gs ∧ hexBlocks lens u = true := by
  induction lens generalizing u gs with
  | nil =>
    constructor
    · intro h
      cases h
      exact ⟨rfl, rfl⟩
    · rintro ⟨rfl, hu⟩
      obtain rfl : u = [] := of_decide_eq_true hu
      exact .empty
  | cons len lens ih =>
    cases lens with
    | nil =>
      rw [hexGroups, yields_times_one, hexBlocks, Bool.and_eq_true, decide_eq_true_eq]
    | cons next lens =>
      rw [hexGroups, yields_seq, hexBlocks_step]
      · constructor
        · rintro ⟨x, _, _, rfl, hx, hlater⟩
          obtain ⟨rfl, rfl, hall⟩ := yields_times_one.mp hx
          obtain ⟨_, v, _, rfl, hdash, hv⟩ := yields_seq.mp hlater
          obtain ⟨rfl, rfl⟩ := yields_literal.mp hdash
          obtain ⟨rfl, hblocks⟩ := ih.mp hv
          simp [hall, hblocks]
        · rintro ⟨rfl, h⟩
          rw [Bool.and_eq_true, Bool.and_eq_true, decide_eq_true_eq] at h
          obtain ⟨⟨hlen, hall⟩, hrest⟩ := h
          split at hrest
          next rest hdrop =>
            refine ⟨u.take len, '-' :: rest, gs', ?_, yields_times_one.mpr ⟨rfl, hlen, hall⟩,
              yields_seq.mpr ⟨['-'], rest, gs', rfl, yields_literal.mpr ⟨rfl, rfl⟩,
                ih.mpr ⟨rfl, hrest⟩⟩⟩
            rw [← hdrop, List.take_append_drop]
          next => cases hrest
      · simp

/-- A name stands before further names, each after its dash. -/
theorem slugGroups_cons (hname : name ≠ [] ∧ name.all isSlugChar = true) :
    slugGroups ('-' :: (name ++ u)) = true ∧ (u = [] ∨ u.head? = some '-') ↔
      slugGroups u = true := by
  have hdash : '-' ∉ name := fun hmem =>
    (isSlugChar_spec (List.all_eq_true.mp hname.2 _ hmem)).1 rfl
  cases u with
  | nil =>
    have hone : slugGroups ('-' :: name) = true := by
      rw [slugGroups, List.splitOn_eq_singleton hdash]
      simp [hname]
    have hnil : slugGroups [] = true := rfl
    simp [hone, hnil]
  | cons c rest =>
    by_cases hc : c = '-'
    · subst hc
      rw [slugGroups, List.splitOn_append_cons_self_of_not_mem hdash, slugGroups]
      simp [hname]
    · have hfalse : slugGroups (c :: rest) = false := by
        unfold slugGroups
        split
        next h => cases h
        next h => exact absurd (List.cons.inj h).1 hc
        next => rfl
      simp [hc, hfalse]

theorem yields_slugName : Yields slugName u gs gs' ↔
    gs' = gs ∧ u ≠ [] ∧ u.all isSlugChar = true :=
  yields_plus_one

theorem yields_dashedName : Yields (.seq (.literal ['-']) slugName) u gs gs' ↔
    gs' = gs ∧ ∃ name, u = '-' :: name ∧ name ≠ [] ∧ name.all isSlugChar = true := by
  rw [yields_seq]
  constructor
  · rintro ⟨_, name, _, rfl, hdash, hname⟩
    obtain ⟨rfl, rfl⟩ := yields_literal.mp hdash
    obtain ⟨rfl, hchars⟩ := yields_slugName.mp hname
    exact ⟨rfl, name, rfl, hchars⟩
  · rintro ⟨rfl, name, rfl, hname⟩
    exact ⟨['-'], name, gs', rfl, yields_literal.mpr ⟨rfl, rfl⟩, yields_slugName.mpr ⟨rfl, hname⟩⟩

/-- The first name of a slug, and the rest of it. -/
theorem slugGroups_first (h : slugGroups ('-' :: rest) = true) :
    ∃ name u, rest = name ++ u ∧ (name ≠ [] ∧ name.all isSlugChar = true) ∧
      slugGroups u = true := by
  by_cases hmem : '-' ∈ rest
  · obtain ⟨name, later, rfl, hdash⟩ := List.eq_append_cons_of_mem hmem
    rw [slugGroups, List.splitOn_append_cons_self_of_not_mem hdash, List.all_cons,
      Bool.and_eq_true, Bool.and_eq_true, decide_eq_true_eq] at h
    exact ⟨name, '-' :: later, rfl, h.1, h.2⟩
  · rw [slugGroups, List.splitOn_eq_singleton hmem, List.all_cons, Bool.and_eq_true,
      Bool.and_eq_true, decide_eq_true_eq] at h
    exact ⟨rest, [], (List.append_nil _).symm, h.1, rfl⟩

theorem yields_slugs : Yields (.star (.seq (.literal ['-']) slugName)) u gs gs' ↔
    gs' = gs ∧ slugGroups u = true := by
  constructor
  · intro h
    generalize hp : Pattern.star (.seq (.literal ['-']) slugName) = p at h
    induction h with
    | stop => exact ⟨rfl, rfl⟩
    | again _ hu _ _ ih =>
      cases hp
      obtain ⟨rfl, name, rfl, hname⟩ := yields_dashedName.mp hu
      obtain ⟨rfl, hlater⟩ := ih rfl
      exact ⟨Pattern.cleared_of_nil rfl _, ((slugGroups_cons hname).mpr hlater).1⟩
    | one | empty | seq | skip | take | done | more | group => cases hp
  · rintro ⟨rfl, h⟩
    induction hn : u.length using Nat.strong_induction_on generalizing u with
    | _ n ih =>
      unfold slugGroups at h
      split at h
      next => exact .stop
      next rest =>
        obtain ⟨name, v, rfl, hname, hv⟩ := slugGroups_first h
        refine .again (u := '-' :: name) (List.cons_ne_nil _ _) ?_
          (ih v.length ?_ hv rfl)
        · rw [Pattern.cleared_of_nil rfl]
          exact yields_dashedName.mpr ⟨rfl, name, rfl, hname⟩
        · rw [← hn, List.length_cons, List.length_append]
          omega
      next => cases h

theorem yields_optionalSlug : Yields optionalSlug u gs gs' ↔
    gs' = gs ∧ slugGroups u = true := by
  constructor
  · intro h
    cases h with
    | skip => exact ⟨rfl, rfl⟩
    | take _ hu =>
      obtain ⟨_, _, _, rfl, hdash, hlater⟩ := yields_seq.mp hu
      obtain ⟨rfl, rfl⟩ := yields_literal.mp hdash
      obtain ⟨name, v, _, rfl, hname, hv⟩ := yields_seq.mp hlater
      obtain ⟨rfl, hchars⟩ := yields_slugName.mp hname
      obtain ⟨rfl, hslugs⟩ := yields_slugs.mp hv
      exact ⟨Pattern.cleared_of_nil rfl _, ((slugGroups_cons hchars).mpr hslugs).1⟩
  · rintro ⟨rfl, h⟩
    unfold slugGroups at h
    split at h
    next => exact .skip
    next rest =>
      obtain ⟨name, v, rfl, hname, hv⟩ := slugGroups_first h
      refine .take (List.cons_ne_nil _ _) ?_
      rw [Pattern.cleared_of_nil rfl]
      exact yields_seq.mpr ⟨['-'], name ++ v, gs', rfl, yields_literal.mpr ⟨rfl, rfl⟩,
        yields_seq.mpr ⟨name, v, gs', rfl, yields_slugName.mpr ⟨rfl, hname⟩,
          yields_slugs.mpr ⟨rfl, hv⟩⟩⟩
    next => cases h

/-- The regular expression takes the URLs of a conversation, and its groups are the project and
the conversation. -/
theorem yields_targetUrl : Yields targetUrlPattern text gs gs' ↔
    ∃ project slug conversation, Conversation text project slug conversation ∧
      gs' = (2, conversation) :: (1, project) :: gs := by
  constructor
  · intro h
    obtain ⟨_, _, _, rfl, hfront, htail⟩ := yields_seq.mp h
    obtain ⟨rfl, rfl⟩ := yields_literal.mp hfront
    obtain ⟨project, _, _, rfl, hproject, hrest⟩ := yields_seq.mp htail
    obtain ⟨_, rfl, hhex⟩ := yields_group.mp hproject
    obtain ⟨rfl, hdigits⟩ := yields_times_one.mp hhex
    obtain ⟨slug, _, _, rfl, hslug, hend⟩ := yields_seq.mp hrest
    obtain ⟨rfl, hname⟩ := yields_optionalSlug.mp hslug
    obtain ⟨_, conversation, _, rfl, hmark, hgroup⟩ := yields_seq.mp hend
    obtain ⟨rfl, rfl⟩ := yields_literal.mp hmark
    obtain ⟨_, rfl, hconversation⟩ := yields_group.mp hgroup
    obtain ⟨rfl, hblocks⟩ := yields_hexGroups.mp hconversation
    exact ⟨project, slug, conversation, ⟨rfl, hdigits, hname, hblocks⟩, rfl⟩
  · rintro ⟨project, slug, conversation, ⟨rfl, hdigits, hname, hblocks⟩, rfl⟩
    exact .seq (yields_literal.mpr ⟨rfl, rfl⟩)
      (.seq (.group (yields_times_one.mpr ⟨rfl, hdigits⟩))
        (.seq (yields_optionalSlug.mpr ⟨rfl, hname⟩)
          (.seq (yields_literal.mpr ⟨rfl, rfl⟩) (.group (yields_hexGroups.mpr ⟨rfl, hblocks⟩)))))

theorem Conversation.unique (h : Conversation text project slug conversation)
    (h' : Conversation text project' slug' conversation') :
    project = project' ∧ conversation = conversation' := by
  have hfound := conversationPattern_eq_some.mpr ⟨slug, h⟩
  have hfound' := conversationPattern_eq_some.mpr ⟨slug', h'⟩
  exact Prod.mk.inj (Option.some.inj (hfound.symm.trans hfound'))

theorem matchWhole_targetUrl : matchWhole targetUrlPattern text = some gs ↔
    ∃ project slug conversation, Conversation text project slug conversation ∧
      gs = [(2, conversation), (1, project)] := by
  rw [matchWhole_eq_some, yields_targetUrl]
  intro gs₁ gs₂ h₁ h₂
  obtain ⟨_, _, _, hleft, rfl⟩ := yields_targetUrl.mp h₁
  obtain ⟨_, _, _, hright, rfl⟩ := yields_targetUrl.mp h₂
  obtain ⟨rfl, rfl⟩ := hleft.unique hright
  rfl

/-- Backtracking through the expression finds what the parser finds. -/
theorem matchWhole_eq_identity (raw : String) : matchWhole targetUrlPattern raw.toList =
    (identity raw).map fun found => [(2, found.2), (1, found.1)] := by
  apply Option.ext
  intro gs
  rw [matchWhole_targetUrl, Option.map_eq_some_iff]
  constructor
  · rintro ⟨project, slug, conversation, h, rfl⟩
    exact ⟨(project, conversation), identity_eq_some.mpr ⟨slug, h⟩, rfl⟩
  · rintro ⟨⟨project, conversation⟩, h, rfl⟩
    obtain ⟨slug, h⟩ := identity_eq_some.mp h
    exact ⟨project, slug, conversation, h, rfl⟩

theorem retainedTargetUrlsMatch_iff : retainedTargetUrlsMatch expected observed = true ↔
    expected = observed ∨ ∃ found, identity expected = some found ∧
      identity observed = some found := by
  rw [retainedTargetUrlsMatch, Bool.or_eq_true, decide_eq_true_eq]
  cases identity expected with
  | none => simp
  | some left =>
    cases identity observed with
    | none => simp
    | some right => simp [eq_comm]

/-- Retained URLs match as one and the same identity: the relation is reflexive, symmetric and
transitive, two different URLs match exactly if they are of one conversation of one project, and
the regular expression of the scripts matches the same ones. -/
theorem target_urls_one_identity :
    (∀ url, retainedTargetUrlsMatch url url = true) ∧
    (∀ left right, retainedTargetUrlsMatch left right = true →
      retainedTargetUrlsMatch right left = true) ∧
    (∀ left middle right, retainedTargetUrlsMatch left middle = true →
      retainedTargetUrlsMatch middle right = true → retainedTargetUrlsMatch left right = true) ∧
    (∀ left right, left ≠ right → (retainedTargetUrlsMatch left right = true ↔
      ∃ project conversation slug slug', Conversation left.toList project slug conversation ∧
        Conversation right.toList project slug' conversation)) ∧
    ∀ left right, Script.retainedTargetUrlsMatch (some (.string left)) (some (.string right)) =
      retainedTargetUrlsMatch left right := by
  refine ⟨?_, ?_, ?_, ?_, ?_⟩
  · intro url
    exact retainedTargetUrlsMatch_iff.mpr (.inl rfl)
  · intro left right h
    rw [retainedTargetUrlsMatch_iff] at h ⊢
    rcases h with rfl | ⟨found, hleft, hright⟩
    · exact .inl rfl
    · exact .inr ⟨found, hright, hleft⟩
  · intro left middle right h h'
    rw [retainedTargetUrlsMatch_iff] at h h' ⊢
    rcases h with rfl | ⟨found, hleft, hmiddle⟩
    · exact h'
    · rcases h' with rfl | ⟨found', hmiddle', hright⟩
      · exact .inr ⟨found, hleft, hmiddle⟩
      · obtain rfl := Option.some.inj (hmiddle.symm.trans hmiddle')
        exact .inr ⟨found, hleft, hright⟩
  · intro left right hne
    rw [retainedTargetUrlsMatch_iff, or_iff_right hne]
    constructor
    · rintro ⟨⟨project, conversation⟩, hleft, hright⟩
      obtain ⟨slug, hleft⟩ := identity_eq_some.mp hleft
      obtain ⟨slug', hright⟩ := identity_eq_some.mp hright
      exact ⟨project, conversation, slug, slug', hleft, hright⟩
    · rintro ⟨project, conversation, slug, slug', hleft, hright⟩
      exact ⟨(project, conversation), identity_eq_some.mpr ⟨slug, hleft⟩,
        identity_eq_some.mpr ⟨slug', hright⟩⟩
  · intro left right
    simp only [Script.retainedTargetUrlsMatch, retainedTargetUrlsMatch, matchWhole_eq_identity]
    cases identity left with
    | none => rfl
    | some found =>
      cases identity right with
      | none => rfl
      | some found' => simp [List.lookup_cons, Prod.ext_iff]

end Pattern

end AgentBrowser
