import GridScript.Proofs.Script.Faults
import GridScript.Proofs.Session.Claiming

/-!
Where messages come from.

The message of a print is a piece of its line. A scheduler makes up no messages: those that it has
queued, and the one that its world shows, are from lines that were submitted. So what holds of every
message of these lines holds of all of them.
-/

namespace GridScript

namespace Script

open Grammar

variable {limit : UInt32} {cs raw m : List Char} {text : String}

lemma Grammar.Unquotes.isInfix {t : List Char} (h : Unquotes t m) : m <:+: t := by
  obtain ⟨front, back⟩ := h
  rename_i u
  have hu : u <:+: t := by
    rcases front with ⟨q, -, rfl⟩ | ⟨-, rfl⟩
    · exact (List.suffix_cons q u).isInfix
    · exact List.infix_rfl
  have hm : m <:+: u := by
    rcases back with ⟨q, -, rfl⟩ | ⟨-, rfl⟩
    · exact (List.prefix_append m [q]).isInfix
    · exact List.infix_rfl
  exact hm.trans hu

lemma Grammar.Message.isInfix (h : Message raw m) : m <:+: raw := by
  obtain ⟨h, -, hm⟩ | ⟨h, hu, hm⟩ := h
  · exact hm.isInfix.trans h.isInfix
  · rename_i u t
    have hparens : u <:+: '(' :: (u ++ [')']) :=
      (List.prefix_append u [')']).isInfix.trans (List.suffix_cons '(' _).isInfix
    exact ((hm.isInfix.trans hu.isInfix).trans hparens).trans h.isInfix

lemma Grammar.Cmd.isInfix_print (h : Cmd limit cs (.print text)) : text.toList <:+: cs := by
  cases h with
  | @print c raw m _ hm =>
    rw [String.toList_ofList, List.append_assoc]
    exact hm.isInfix.trans (List.suffix_append _ _).isInfix

lemma innermost_of_readStatement {st : Statement} (h : readStatement limit cs = .ok st) :
    ∃ body, body <:+ Text.trim cs ∧ Cmd limit body st.innermost := by
  obtain ⟨k, front, wrap, body, c, hcs, hbefore, hc, rfl⟩ :=
    line_iff_before.1 (readTrimmed_eq_ok_iff.1 h)
  refine ⟨body, ⟨front, hcs.symm⟩, ?_⟩
  cases hbefore <;> exact hc

/-- A message of a line stands in it. -/
lemma isInfix_of_print {st : Statement} (h : .ok st ∈ readLine limit cs)
    (hst : st.innermost = .print text) : text.toList <:+: cs := by
  obtain ⟨part, hpart, hread⟩ := List.mem_map.1 h
  obtain ⟨body, hbody, hc⟩ := innermost_of_readStatement hread
  obtain ⟨hline, htrim⟩ := isInfix_of_mem_lineParts hpart
  rw [htrim] at hbody
  rw [hst] at hc
  exact ((hc.isInfix_print.trans hbody.isInfix).trans hline).trans (trim_spec cs).isInfix

end Script

/-! ### Effects -/

namespace Effect

/-- A statement has the effect of its command, however often. -/
lemma eq_of_mem_ofStatement {defaultWait : Millis} {read : Builtin → Int} {scope : Scope}
    {st : Statement} {e : Effect} (h : e ∈ ofStatement defaultWait read scope st) :
    e = ofCommand defaultWait st.innermost := by
  induction st generalizing scope with
  | command c => exact List.mem_singleton.1 h
  | loop name count body ih =>
    obtain ⟨i, -, hi⟩ := List.mem_flatMap.1 h
    exact ih hi
  | guarded c body ih =>
    rw [ofStatement] at h
    split at h
    · exact ih h
    · cases h

lemma ofCommand_eq_print {defaultWait : Millis} {c : Command} {text : String}
    (h : ofCommand defaultWait c = .stage (.print text)) : c = .print text := by
  cases c with
  | print t => exact congrArg Command.print (Action.print.inj (stage.inj h))
  | wait ms => cases ms <;> cases h
  | move | walk | turn | clear => cases h

/-- A line stages no messages but its own. -/
lemma isInfix_of_mem_ofLine {rules : Rules} {read : Builtin → Int} {line text : String}
    (h : .stage (.print text) ∈ ofLine rules read line) : text.toList <:+: line.toList := by
  obtain ⟨part, hpart, hmem⟩ := List.mem_flatMap.1 h
  cases part with
  | error e => cases hmem
  | ok st =>
    have heffect := eq_of_mem_ofStatement hmem
    exact Script.isInfix_of_print hpart (ofCommand_eq_print heffect.symm)

end Effect

/-! ### Schedulers -/

namespace Scheduler

/-- All messages that are queued, and the one that is shown, are of some kind. -/
structure Tells (P : String → Prop) (s : Scheduler) (w : World) : Prop where
  queued : ∀ text, .print text ∈ s.queue → P text
  shown : ∀ text, w.messages.current = some text → P text

variable {P : String → Prop} {s : Scheduler} {w : World}

lemma print_not_mem_rest (a : Action) (text : String) : .print text ∉ a.rest := by
  unfold Action.rest
  split
  · split <;> simp
  · simp

lemma queued_dequeue {a : Action} {queue : List Action} (hq : s.queue = a :: queue)
    (h : ∀ text, .print text ∈ s.queue → P text) (now : Millis) {text : String}
    (htext : .print text ∈ (s.dequeue a queue now).queue) : P text := by
  refine h text (hq ▸ List.mem_cons_of_mem a ?_)
  exact (List.mem_append.1 htext).resolve_left (print_not_mem_rest a text)

lemma messages_moveTo (s : Scheduler) (p : Position) (now : Millis) (w : World) :
    (s.moveTo p now w).messages = w.messages := by
  unfold moveTo
  split <;> rfl

lemma Tells.tick (h : s.Tells P w) (now : Millis) :
    (s.tick now w).scheduler.Tells P (s.tick now w).world := by
  have hstep := s.tick_spec now w
  generalize s.tick now w = r at hstep
  cases hstep with
  | arrive | block | idle | gated => exact ⟨h.queued, h.shown⟩
  | go => exact ⟨h.queued, by simpa only [messages_moveTo] using h.shown⟩
  | drop a queue d hm hq | start a queue d hm hq =>
    exact ⟨fun _ => queued_dequeue hq h.queued now, h.shown⟩
  | turn d queue hm hq => exact ⟨fun _ => queued_dequeue hq h.queued now, h.shown⟩
  | wait ms queue hm hq => exact ⟨fun _ => queued_dequeue hq h.queued _, h.shown⟩
  | print text queue hm hq =>
    refine ⟨fun _ => queued_dequeue hq h.queued now, fun t ht => ?_⟩
    obtain rfl := Option.some.inj ht
    exact h.queued text (hq ▸ List.mem_cons_self)

lemma queued_effects {fx : List Effect} (hfx : ∀ text, .stage (.print text) ∈ fx → P text)
    (h : ∀ text, .print text ∈ s.queue → P text) :
    ∀ text, .print text ∈ (fx.foldl Effect.apply s).queue → P text := by
  induction fx generalizing s with
  | nil => exact h
  | cons e fx ih =>
    refine ih (fun text htext => hfx text (List.mem_cons_of_mem e htext)) fun text htext => ?_
    cases e with
    | clear => cases htext
    | stage a =>
      simp only [Effect.apply, stage] at htext
      split at htext
      · exact h text htext
      · rcases List.mem_append.1 htext with htext | htext
        · exact h text htext
        · exact hfx text (List.mem_singleton.1 htext ▸ List.mem_cons_self)

/-- A line adds its own messages to those that there are. -/
lemma Tells.submit (h : s.Tells P w) (rules : Rules) {line : String}
    (hline : ∀ text, text.toList <:+: line.toList → P text) :
    (rules.submit line s w).scheduler.Tells P (rules.submit line s w).world := by
  refine ⟨?_, ?_⟩
  · rw [scheduler_submit]
    refine queued_effects (fun text htext => ?_) h.queued
    exact hline text (Effect.isInfix_of_mem_ofLine htext)
  · rw [world_submit]
    split
    · exact h.shown
    · exact h.shown

end Scheduler

end GridScript
