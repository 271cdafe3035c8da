/-
  EntitySchema.Proofs.Files.Interruption
  ────────────────────────────────
  **WHERE A SCRIPT MAY STOP.**

  A real system may refuse a request for reasons of its own, before or after
  it has done something, and it may go down between two requests or inside
  one.  What is left of a request then:

      makeDirectory, create, move     nothing, or all of it
      append                          any beginning of the data
      read, find, sync, now           nothing
      git                             anything, for it is foreign

  So a script has many courses, among them the one where nothing happens.
  What every request keeps, however it goes, is kept wherever a script stops.

  Main results: `Stops.run`, `stops_bind_iff`, `Asks.stops_within`.
-/
import EntitySchema.Proofs.Files.Confinement

namespace EntitySchema

open EntitySchema.FileTree (Scope Within)

variable {α β ε φ : Type} {h h' : Host} {p q : Path} {S : Scope} {r : Request} {P : Request → Prop}

/-! ## §1. Requests. -/

namespace Request

/-- Files that a request leaves behind, whatever becomes of it. -/
inductive Leaves (r : Request) (h : Host) : FileTree → Prop
  | nothing : r.Leaves h h.files
  | everything : r.Leaves h (h.answer r).2.files
  | beginning {p : Path} {data written rest : ByteArray} {t : FileTree} (hr : r = .append p data)
      (hdata : data = written ++ rest) (happend : h.files.append p written = .ok t) : r.Leaves h t
  | anything {words : List String} {nodes : List (Location × FileNode)} (hr : r = .git words) :
      r.Leaves h { h.files with nodes }

/-- Answer by which a request is refused.  The clock always answers, and a
program that cannot be started says nothing. -/
def refusal (e : FileFault) : (r : Request) → Option r.Answer
  | .read _ => some (.error e)
  | .find _ => some none
  | .makeDirectory _ | .create _ | .touch _ | .append _ _ | .sync _ | .move _ _ => some (.error e)
  | .now => none
  | .git _ => some none

/-- Answers to a request, and systems after it: as it should be, or a refusal
for any reason. -/
inductive Responds (r : Request) (h : Host) : r.Answer → Host → Prop
  | told {answer : r.Answer} {h' : Host} (hanswer : h.answer r = (answer, h')) :
      r.Responds h answer h'
  | refused {e : FileFault} {answer : r.Answer} {t : FileTree}
      (hanswer : r.refusal e = some answer) (hleft : r.Leaves h t) :
      r.Responds h answer { h with files := t }

theorem Responds.leaves {answer : r.Answer} (hresponds : r.Responds h answer h') :
    r.Leaves h h'.files := by
  cases hresponds with
  | told hanswer =>
      have hfiles : (h.answer r).2.files = h'.files := by rw [hanswer]
      exact hfiles ▸ .everything
  | refused _ hleft => exact hleft

/-- A request leaves nothing outside the scope that admits it. -/
theorem Leaves.within {t : FileTree} (hleft : r.Leaves h t) (hr : S.Admits r) :
    Within S h.files t := by
  cases hleft with
  | nothing => exact .refl h.files
  | everything => exact Script.within_answer hr h
  | beginning heq _ happend =>
      subst heq
      exact FileTree.within_append hr.1 hr.2 happend
  | anything heq =>
      subst heq
      exact hr.elim

end Request

namespace Script

/-! ## §2. Courses of a script. -/

/-- A script stops: with its value, or with none where it is cut off. -/
inductive Stops {α : Type} : Script α → Host → Option α → Host → Prop
  | done (a : α) (h : Host) : Stops (.done a) h (some a) h
  | cut {r : Request} {next : r.Answer → Script α} {h : Host} {t : FileTree}
      (hleft : r.Leaves h t) : Stops (.ask r next) h none { h with files := t }
  | asked {r : Request} {next : r.Answer → Script α} {h h₁ h' : Host} {answer : r.Answer}
      {result : Option α} (hresponds : r.Responds h answer h₁)
      (hrest : Stops (next answer) h₁ result h') : Stops (.ask r next) h result h'

/-- **A RUN WHERE NOTHING HAPPENS** is a course of the script. -/
theorem Stops.run (s : Script α) (h : Host) : s.Stops h (some (s.run h).1) (s.run h).2 := by
  induction s generalizing h with
  | done a => exact .done a h
  | ask r next ih => exact .asked (.told rfl) (ih _ _)

/-- **WHERE A SCRIPT STOPS THAT IS FOLLOWED BY ANOTHER**: the first is cut
off, or the second stops after it. -/
theorem stops_bind_iff {s : Script α} {f : α → Script β} {result : Option β} :
    (s >>= f).Stops h result h' ↔ result = none ∧ s.Stops h none h'
      ∨ ∃ a h₁, s.Stops h (some a) h₁ ∧ (f a).Stops h₁ result h' := by
  -- on the first script: a request that is cut off ends both, one that is answered goes on
  induction s generalizing h with
  | done a =>
      constructor
      · intro hstops
        exact .inr ⟨a, h, .done a h, hstops⟩
      · rintro (⟨-, hstops⟩ | ⟨a', h₁, hstops, hrest⟩)
        · cases hstops
        · cases hstops
          exact hrest
  | ask r next ih =>
      have hbind : Script.ask r next >>= f = .ask r fun answer => next answer >>= f := rfl
      rw [hbind]
      constructor
      · intro hstops
        cases hstops with
        | cut hleft => exact .inl ⟨rfl, .cut hleft⟩
        | asked hresponds hrest =>
            rcases (ih _).1 hrest with ⟨hresult, hstops⟩ | ⟨a, h₁, hstops, hrest⟩
            · exact .inl ⟨hresult, .asked hresponds hstops⟩
            · exact .inr ⟨a, h₁, .asked hresponds hstops, hrest⟩
      · rintro (⟨rfl, hstops⟩ | ⟨a, h₁, hstops, hrest⟩)
        · cases hstops with
          | cut hleft => exact .cut hleft
          | asked hresponds hstops => exact .asked hresponds ((ih _).2 (.inl ⟨rfl, hstops⟩))
        · cases hstops with
          | asked hresponds hstops =>
              exact .asked hresponds ((ih _).2 (.inr ⟨a, h₁, hstops, hrest⟩))

theorem stops_pure_iff {a : α} {result : Option α} :
    (pure a : Script α).Stops h result h' ↔ result = some a ∧ h' = h := by
  constructor
  · intro hstops
    cases hstops
    exact ⟨rfl, rfl⟩
  · rintro ⟨rfl, rfl⟩
    exact .done a h'

/-- A single request stops where it leaves what it leaves. -/
theorem stops_request_iff {result : Option r.Answer} : (request r).Stops h result h'
    ↔ (result = none ∧ ∃ t, r.Leaves h t ∧ h' = { h with files := t })
      ∨ ∃ answer, result = some answer ∧ r.Responds h answer h' := by
  constructor
  · intro hstops
    cases hstops with
    | cut hleft => exact .inl ⟨rfl, _, hleft, rfl⟩
    | asked hresponds hrest =>
        cases hrest
        exact .inr ⟨_, rfl, hresponds⟩
  · rintro (⟨rfl, t, hleft, rfl⟩ | ⟨answer, rfl, hresponds⟩)
    · exact .cut hleft
    · exact .asked hresponds (.done answer h')

theorem leaves_of_stops {result : Option r.Answer} (hstops : (request r).Stops h result h') :
    r.Leaves h h'.files := by
  rcases stops_request_iff.1 hstops with ⟨-, t, hleft, rfl⟩ | ⟨answer, -, hresponds⟩
  · exact hleft
  · exact hresponds.leaves

/-- An answer that is no refusal is the one that the system should give. -/
theorem answer_of_stops {answer : r.Answer} (hanswer : ∀ e, r.refusal e ≠ some answer)
    (hstops : (request r).Stops h (some answer) h') : h.answer r = (answer, h') := by
  rcases stops_request_iff.1 hstops with ⟨hnone, -⟩ | ⟨_, heq, hresponds⟩
  · cases hnone
  · cases heq
    cases hresponds with
    | told hanswer => exact hanswer
    | refused hrefusal _ => exact absurd hrefusal (hanswer _)

/-- Requests that are not refused have been carried out. -/
theorem create_of_stops (hstops : (create p).Stops h (some (.ok ())) h') :
    h.files.create p = .ok h'.files :=
  update_eq_ok (answer_of_stops (r := .create p) (fun _ heq => nomatch heq) hstops)

theorem append_of_stops {data : ByteArray}
    (hstops : (appendBytes p data).Stops h (some (.ok ())) h') :
    h.files.append p data = .ok h'.files :=
  update_eq_ok (answer_of_stops (r := .append p data) (fun _ heq => nomatch heq) hstops)

theorem move_of_stops (hstops : (move p q).Stops h (some (.ok ())) h') :
    h.files.move p q = .ok h'.files :=
  update_eq_ok (answer_of_stops (r := .move p q) (fun _ heq => nomatch heq) hstops)

/-- **WHEREVER A SCRIPT STOPS, IT HAS STAYED WITHIN ITS SCOPE.** -/
theorem Asks.stops_within {s : Script α} (hs : s.Asks S.Admits) {result : Option α}
    (hstops : s.Stops h result h') : Within S h.files h'.files := by
  induction hs generalizing h with
  | done a =>
      cases hstops
      exact .refl _
  | ask hr _ ih =>
      cases hstops with
      | cut hleft => exact hleft.within hr
      | asked hresponds hrest => exact (hresponds.leaves.within hr).trans (ih _ hrest)

/-! ## §3. Scripts that may fail. -/

/-- A part that may fail comes to its end, or the whole stops in it and does
not end well. -/
theorem stops_run_bind_iff {x : ExceptT ε Script α} {f : α → ExceptT ε Script β}
    {result : Option (Except ε β)} : (x >>= f).run.Stops h result h'
      ↔ result = none ∧ x.run.Stops h none h'
        ∨ (∃ e, result = some (.error e) ∧ x.run.Stops h (some (.error e)) h')
        ∨ ∃ a h₁, x.run.Stops h (some (.ok a)) h₁ ∧ (f a).run.Stops h₁ result h' := by
  rw [ExceptT.run_bind, stops_bind_iff]
  refine or_congr_right ?_
  constructor
  · rintro ⟨outcome, h₁, hstops, hrest⟩
    -- behind an error nothing is asked any more
    cases outcome with
    | error e =>
        obtain ⟨rfl, rfl⟩ := stops_pure_iff.1 hrest
        exact .inl ⟨e, rfl, hstops⟩
    | ok a => exact .inr ⟨a, h₁, hstops, hrest⟩
  · rintro (⟨e, rfl, hstops⟩ | ⟨a, h₁, hstops, hrest⟩)
    · exact ⟨.error e, h', hstops, stops_pure_iff.2 ⟨rfl, rfl⟩⟩
    · exact ⟨.ok a, h₁, hstops, hrest⟩

/-- A script whose fault is seen as another one stops where it stops. -/
theorem stops_orFail_iff {s : Script (Except ε α)} {cause : ε → φ} {result : Option (Except φ α)} :
    (s.orFail cause).run.Stops h result h'
      ↔ ∃ outcome, s.Stops h outcome h' ∧ result = outcome.map (·.mapError cause) := by
  have horFail : (s.orFail cause).run = s >>= fun outcome => pure (outcome.mapError cause) := rfl
  rw [horFail, stops_bind_iff]
  constructor
  · rintro (⟨rfl, hstops⟩ | ⟨outcome, h₁, hstops, hrest⟩)
    · exact ⟨none, hstops, rfl⟩
    · obtain ⟨rfl, rfl⟩ := stops_pure_iff.1 hrest
      exact ⟨some outcome, hstops, rfl⟩
  · rintro ⟨outcome, hstops, rfl⟩
    cases outcome with
    | none => exact .inl ⟨rfl, hstops⟩
    | some outcome => exact .inr ⟨outcome, h', hstops, stops_pure_iff.2 ⟨rfl, rfl⟩⟩

/-- A part that may fail and is followed by others: it is the last one that
is carried out, and the whole does not end well, or it ends well itself. -/
theorem stops_orFail_bind {s : Script (Except ε α)} {cause : ε → φ} {f : α → ExceptT φ Script β}
    {result : Option (Except φ β)} (hstops : (s.orFail cause >>= f).run.Stops h result h') :
    (∃ outcome, s.Stops h outcome h' ∧ ∀ b, result ≠ some (.ok b))
      ∨ ∃ a h₁, s.Stops h (some (.ok a)) h₁ ∧ (f a).run.Stops h₁ result h' := by
  rcases stops_run_bind_iff.1 hstops with ⟨rfl, hpart⟩ | ⟨e, rfl, hpart⟩ | ⟨a, h₁, hpart, hrest⟩
  · obtain ⟨outcome, hpart, -⟩ := stops_orFail_iff.1 hpart
    exact .inl ⟨outcome, hpart, nofun⟩
  · obtain ⟨outcome, hpart, -⟩ := stops_orFail_iff.1 hpart
    exact .inl ⟨outcome, hpart, nofun⟩
  · obtain ⟨outcome, hpart, houtcome⟩ := stops_orFail_iff.1 hpart
    obtain ⟨answer, rfl, hanswer⟩ := Option.map_eq_some_iff.1 houtcome.symm
    rw [mapError_eq_ok_iff.1 hanswer] at hpart
    exact .inr ⟨a, h₁, hpart, hrest⟩

end Script
end EntitySchema
