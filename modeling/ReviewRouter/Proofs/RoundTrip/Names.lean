import Mathlib.Data.Bool.AllAny
import ReviewRouter.Proofs.Pattern.Only
import ReviewRouter.Proofs.Redirect.Path
import ReviewRouter.Proofs.RoundTrip.Basic

/-!
# Addresses made of names

A topic, a search in the documentation and the screen of a plugin are addressed by one or two names
behind a fixed beginning, with which no earlier route may open.

* `action_navigate_topicAddress`, `action_navigate_documentationAddress` — **the addresses of a topic
  and of a search in the documentation lead back**;
* `IsScreenName`, `action_navigate_screenAddress` — **so does that of a screen, whose names stand in it
  as they are**.
-/

namespace ReviewRouter

open Pattern
open Percent (readable escapeSegment unescape unescapeValue)

/-- A name without slashes at the end of a path, perhaps before a slash. -/
theorem readsOnly_segment {name : Text} {p : Pattern} {t : Text} (ht : Bare p (readable false t)) :
    ReadsOnly [.capture name p, slash?, stop] (readable false t) [(name, readable false t)] := by
  have hreads : ReadsOnly [.capture name p, slash?, stop] (readable false t ++ [])
      [(name, readable false t)] :=
    readsOnly_capture_end isEnd_slash ht (Percent.slash_not_mem_readable t)
  rwa [List.append_nil] at hreads

/-- Names without slashes are runs up to one. -/
theorem isRun_segment (t : Text) : isRun (.besides '/') (readable false t) := by
  intro c hc
  rw [CharSet.mem_besides]
  rintro rfl
  exact Percent.slash_not_mem_readable t hc

section Routes

variable {σ : Type} {n : Navigator} {t : Text}

/-! ### Topics -/

theorem takes_topic (t : Text) :
    Route.topic.Takes ("/c/topic/".toList ++ readable false t) [("topic", readable false t)] := by
  have hname : ReadsOnly [.capture "topic" (reps (.besides '/')), slash?, stop] (readable false t)
      [("topic", readable false t)] :=
    readsOnly_segment (bare_reps (isRun_segment t))
  have hreads : ReadsOnly Route.topic.shape ("/c/topic/".toList ++ readable false t) _ :=
    readsOnly_lit "/c/topic/" hname
  have hbefore : Route.topic.before.filter (Route.mayOpen "/c/topic/") = [] := by
    decide
  exact Route.takes_of_first (matchAt?_of_readsOnly hreads none) hbefore

/-- The address of a topic leads back to it. -/
theorem action_navigate_topicAddress (hn : n.IsStandard) (s : Session σ) (st : σ) (t : Text) :
    ((n.navigate (View.topic t).address).1.run s st).1.action = .present (.topic t) := by
  have htakes := takes_topic t
  rw [← matchPath_segmentAddress (by decide)] at htakes
  have htopic : (Route.topic.captured [("topic", readable false t)]).require "topic" = .ok t :=
    require_readable .topic false rfl
  rw [show (View.topic t).address = "/c/topic/".toList ++ escapeSegment false t from rfl,
    n.navigate_of_present hn (v := .topic t) htakes rfl]
  · rfl
  · intro initialLoad
    show (liftM ((Route.topic.captured _).require "topic") >>= fun t => pure (.present (.topic t)) :
      Handling Action) = _
    rw [htopic]
    rfl

/-! ### Searches in the documentation -/

theorem takes_documentationSearch (hne : t ≠ []) :
    Route.documentationSearchFilter.Takes ("/Documentation/q/filter:".toList ++ readable false t)
      [("filter", readable false t)] := by
  have hname : ReadsOnly [.capture "filter" (plus (.besides '/')), slash?, stop] (readable false t)
      [("filter", readable false t)] :=
    readsOnly_segment (bare_plus (fun h => hne (Percent.readable_eq_nil.1 h)) (isRun_segment t))
  have hreads : ReadsOnly Route.documentationSearchFilter.shape
      ("/Documentation/q/filter:".toList ++ readable false t) _ :=
    readsOnly_lit "/Documentation/q/filter:" hname
  have hbefore : Route.documentationSearchFilter.before.filter
      (Route.mayOpen "/Documentation/q/filter:") = [] := by
    decide
  exact Route.takes_of_first (matchAt?_of_readsOnly hreads none) hbefore

/-- The address of a search in the documentation leads back to it. -/
theorem action_navigate_documentationAddress (hn : n.IsStandard) (s : Session σ) (st : σ) (hne : t ≠ []) :
    ((n.navigate (View.documentationSearch (some t)).address).1.run s st).1.action =
      .present (.documentationSearch (some t)) := by
  have htakes := takes_documentationSearch hne
  rw [← matchPath_segmentAddress (by decide)] at htakes
  have hfilter : (Route.documentationSearchFilter.captured [("filter", readable false t)]).require
      "filter" = .ok t :=
    require_readable .documentationSearchFilter false rfl
  rw [show (View.documentationSearch (some t)).address =
      "/Documentation/q/filter:".toList ++ escapeSegment false t from rfl,
    n.navigate_of_present hn (v := .documentationSearch (some t)) htakes rfl]
  · rfl
  · intro initialLoad
    show (liftM ((Route.documentationSearchFilter.captured _).require "filter") >>= fun t =>
      pure (.present (.documentationSearch (some t))) : Handling Action) = _
    rw [hfilter]
    rfl

end Routes

/-! ### Screens of plugins -/

/-- The characters of plugins and screens in a path. -/
def screenSet : CharSet := .union (.union .empty .word) (.one '-')

/-- A name of a plugin or a screen, as it stands in a path. -/
structure IsScreenName (t : Text) : Prop where
  ne_nil : t ≠ []
  isRun : isRun screenSet t

theorem IsScreenName.not_mem {t : Text} (h : IsScreenName t) :
    ∀ c ∈ ['%', '+', '?', '#', '/'], c ∉ t := by
  intro c hc hmem
  have hset : ∀ c ∈ ['%', '+', '?', '#', '/'], screenSet.mem c = false :=
    List.all_iff_forall_prop.1 (by decide)
  have hrun := h.isRun c hmem
  rw [hset c hc] at hrun
  cases hrun

section Screens

variable {plugin screen : Text}

theorem takes_pluginScreen (hplugin : IsScreenName plugin) (hscreen : IsScreenName screen) :
    Route.pluginScreen.Takes ("/x/".toList ++ (plugin ++ ("/".toList ++ screen)))
      [("screen", screen), ("plugin", plugin)] := by
  have hmatch : Route.pluginScreen.match? ("/x/".toList ++ (plugin ++ ("/".toList ++ screen))) =
      some [("screen".toList, screen), ("plugin".toList, plugin)] := by
    show (row (lit "/x/" ++ .capture "plugin" (plus screenSet) :: (lit "/" ++
      [.capture "screen" (plus screenSet), slash?]))).matchAt? none _ = _
    rw [matchAt?, run_lit]
    refine run_capture_plus_of_longest hplugin.ne_nil hplugin.isRun ?_ ?_
    · have hlast : ∀ before, (row [.capture "screen" (plus screenSet), slash?]).run
          (fun e => some e.captured) ⟨before, screen ++ [], [("plugin", plugin)]⟩ =
            some [("screen".toList, screen), ("plugin".toList, plugin)] := by
        intro before
        refine run_capture_plus_of_longest hscreen.ne_nil hscreen.isRun rfl ?_
        intro x u r cs heq hx
        exact absurd (List.append_eq_nil_iff.1 heq.symm).1 hx
      rw [run_lit]
      rw [List.append_nil] at hlast
      exact hlast _
    · -- the slash belongs to no name
      intro x u r cs heq hx hrun hreads
      cases x with
      | nil => exact hx rfl
      | cons c x =>
        have hc : '/' = c := (List.cons.inj heq).1
        have hslash : screenSet.mem '/' = false := by decide
        rw [← hc, isRun_cons, hslash] at hrun
        cases hrun.1
  have hbefore : Route.pluginScreen.before.filter (Route.mayOpen "/x/") = [] := by
    decide
  exact Route.takes_of_first hmatch hbefore

/-- The address of a screen leads back to it. -/
theorem action_navigate_screenAddress {σ : Type} {n : Navigator} (hn : n.IsStandard) (s : Session σ)
    (st : σ) (hplugin : IsScreenName plugin) (hscreen : IsScreenName screen) :
    ((n.navigate (View.pluginScreen plugin screen).address).1.run s st).1.action =
      .present (.pluginScreen plugin screen) := by
  have habsent : ∀ c ∈ ['%', '?', '#'], c ∉ "/x/".toList ++ (plugin ++ ("/".toList ++ screen)) := by
    intro c hc
    have hmark : c ∉ ("/x/" : Text) ∧ c ∉ ("/" : Text) ∧ c ∈ ['%', '+', '?', '#', '/'] := by
      revert c
      exact List.all_iff_forall_prop.1 (by decide)
    simp only [List.mem_append, not_or]
    exact ⟨hmark.1, hplugin.not_mem c hmark.2.2, hmark.2.1, hscreen.not_mem c hmark.2.2⟩
  have haddress : (View.pluginScreen plugin screen).address =
      "/x/".toList ++ (plugin ++ ("/".toList ++ screen)) := by
    rw [← List.append_assoc, ← List.append_assoc]
    rfl
  have hne : "/x/".toList ++ (plugin ++ ("/".toList ++ screen)) ≠ [] := List.cons_ne_nil _ _
  have hparse := Location.matchPath_parse_of_front hne (habsent '?' (by decide)) (habsent '#' (by decide))
    front_nil
  rw [List.append_nil, Percent.unescape_plain _ (habsent '%' (by decide)), ← haddress] at hparse
  have htakes := takes_pluginScreen hplugin hscreen
  rw [← haddress, ← hparse] at htakes
  have hread : ∀ {t : Text}, IsScreenName t → unescapeValue t = t := by
    intro t ht
    exact Percent.unescapeValue_plain t (ht.not_mem '%' (by decide)) (ht.not_mem '+' (by decide))
  let c := Route.pluginScreen.captured [("screen", screen), ("plugin", plugin)]
  have hfirst : c.require "plugin" = .ok plugin := by
    apply Captures.require_eq
    rw [Route.get?_captured]
    exact congrArg some (hread hplugin)
  have hsecond : c.require "screen" = .ok screen := by
    apply Captures.require_eq
    rw [Route.get?_captured]
    exact congrArg some (hread hscreen)
  rw [n.navigate_of_present hn (v := .pluginScreen plugin screen) htakes rfl]
  · rfl
  · intro initialLoad
    show (liftM (c.require "plugin") >>= fun plugin => liftM (c.require "screen") >>= fun screen =>
      pure (.present (.pluginScreen plugin screen)) : Handling Action) = _
    rw [hfirst, hsecond]
    rfl

end Screens

end ReviewRouter
