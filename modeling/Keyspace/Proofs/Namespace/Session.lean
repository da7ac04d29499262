/-
# Requests that are never refused

Under the operations of a namespace lie steps that do not go through for every text.  A text is cut
at the delimiter, a component is looked up by its position, a parent may be missing, and an argument
has to have the methods of a text.  For a namespace of a layout each of them goes through, however
malformed the keys are:

* the delimiter of a layout is not empty, so every text can be cut (`parse_eq_ok`);
* the child on the way is looked up below the number of components and nowhere else
  (`exists_immediateChild`);
* an answer that is a text can stand where a text has to.

So eleven of the operations have an answer for all texts (`exists_answer`), and a session of them
never meets a refusal as long as it is fed with texts, given ones or answers that came before
(`IsFed.exists_answers`).  The other two are left out.  A bucket is no text, and a path has to be
absolute; that is the only condition on paths.
-/
import Keyspace.Namespace.Request
import Keyspace.Proofs.Namespace.Ancestry

namespace Keyspace.Namespace

variable {ns : Namespace} {earlier : List (Outcome Refusal Answer)}

/-! ## 1. Requests about texts -/

def Argument.IsText (a : Argument) : Prop :=
  ∃ t, a = .text t

/-- The arguments of a request, in order. -/
def Request.arguments {α : Type} : Request α → List α
  | .pathToKey k | .parent k | .parentName k | .fileName k | .componentCount k | .withTrailing k
  | .withoutTrailing k | .isFile k | .isValidName k | .isOptimizedBucket k => [k]
  | .immediateChild d a => [d, a]
  | .isImmediateChild p c => [p, c]
  | .append k n => [k, n]

/-- Whether the operation takes all texts: it is neither about a path, which has to be absolute, nor
about a bucket. -/
def Request.IsTotal {α : Type} : Request α → Prop
  | .pathToKey _ | .isOptimizedBucket _ => False
  | _ => True

/-- Finding the arguments keeps the operation, and what holds of all that is found holds of the
arguments. -/
theorem Request.exists_resolve {α β ε : Type} {f : α → Except ε β} {P : β → Prop} {r : Request α}
    (h : ∀ s ∈ r.arguments, ∃ b, f s = .ok b ∧ P b) :
    ∃ r', r.resolve f = .ok r' ∧ (r'.IsTotal ↔ r.IsTotal) ∧ ∀ b ∈ r'.arguments, P b := by
  cases r with
  | immediateChild s t | isImmediateChild s t | append s t =>
    obtain ⟨b, hb, hPb⟩ := h s (by simp [arguments])
    obtain ⟨c, hc, hPc⟩ := h t (by simp [arguments])
    refine ⟨_, by rw [resolve, hb, hc]; rfl, Iff.rfl, ?_⟩
    simpa [arguments] using ⟨hPb, hPc⟩
  | pathToKey s | parent s | parentName s | fileName s | componentCount s | withTrailing s
  | withoutTrailing s | isFile s | isValidName s | isOptimizedBucket s =>
    obtain ⟨b, hb, hPb⟩ := h s (by simp [arguments])
    refine ⟨_, by rw [resolve, hb]; rfl, Iff.rfl, ?_⟩
    simpa [arguments] using hPb

theorem answerChild_text {d a : Text} {c : Option Text} (h : ns.immediateChild d a = .ok c) :
    ns.answerChild (.text d) (.text a) = .ok (c.elim .nothing .text) := by
  -- only an ancestor that is not empty is asked for a method
  cases a <;> cases c <;>
    simp only [answerChild, textWith, Argument.text?_text, h, bind, Except.bind] <;> rfl

/-- The parent is asked for a method after the child is known not to be blank. -/
theorem answerIsChild_text (ns : Namespace) (p c : Text) :
    ns.answerIsChild (.text p) (.text c) = .ok (.truth (ns.isImmediateChild p c)) := by
  change (if Text.isBlank c then Except.ok (Answer.truth false) else _) = _
  split
  next h => rw [isImmediateChild_of_isBlank_child h]
  next => rfl

/-- **For texts there is an answer.** -/
theorem exists_answer (ns : Namespace) {r : Request Argument} (hr : r.IsTotal)
    (h : ∀ a ∈ r.arguments, a.IsText) : ∃ a, ns.answer r = .pure (.ok a) := by
  cases r with
  | pathToKey p => exact hr.elim
  | isOptimizedBucket m => exact hr.elim
  | parent k | parentName k | fileName k | componentCount k | withTrailing k | withoutTrailing k
  | isFile k | isValidName k =>
    obtain ⟨t, rfl⟩ := h k (by simp [Request.arguments])
    exact ⟨_, rfl⟩
  | append k n =>
    obtain ⟨k, rfl⟩ := h k (by simp [Request.arguments])
    obtain ⟨n, rfl⟩ := h n (by simp [Request.arguments])
    exact ⟨_, rfl⟩
  | immediateChild d a =>
    obtain ⟨d, rfl⟩ := h d (by simp [Request.arguments])
    obtain ⟨a, rfl⟩ := h a (by simp [Request.arguments])
    obtain ⟨c, hc, -⟩ := ns.exists_immediateChild d a
    exact ⟨_, congrArg Logged.pure (answerChild_text hc)⟩
  | isImmediateChild p c =>
    obtain ⟨p, rfl⟩ := h p (by simp [Request.arguments])
    obtain ⟨c, rfl⟩ := h c (by simp [Request.arguments])
    exact ⟨_, congrArg Logged.pure (ns.answerIsChild_text p c)⟩

/-! ## 2. Sessions about texts -/

/-- The slots that hold a text: one that is given, or the answer to an earlier request. -/
inductive Slot.IsText (earlier : List (Outcome Refusal Answer)) : Slot → Prop where
  | given (t : Text) : IsText earlier (.value (.atom (.text t)))
  | answered {i : Nat} {log : List Notice} {t : Text}
    (h : earlier[i]? = some ⟨log, .ok (.text t)⟩) : IsText earlier (.answerOf i)

theorem Slot.IsText.exists_argument {s : Slot} (h : s.IsText earlier) :
    ∃ a, s.argument earlier = .ok a ∧ a.IsText := by
  cases h with
  | given t => exact ⟨_, rfl, t, rfl⟩
  | @answered i log t h => exact ⟨.text t, by rw [argument, h]; rfl, t, rfl⟩

/-- A session of operations that take all texts, in which every argument is one. -/
inductive IsFed (ns : Namespace) : List (Outcome Refusal Answer) → List (Request Slot) → Prop where
  | nil (earlier : List (Outcome Refusal Answer)) : IsFed ns earlier []
  | cons {earlier : List (Outcome Refusal Answer)} {r : Request Slot} {rs : List (Request Slot)}
    (total : r.IsTotal) (texts : ∀ s ∈ r.arguments, s.IsText earlier)
    (rest : IsFed ns (earlier ++ [ns.answerNext earlier r]) rs) : IsFed ns earlier (r :: rs)

/-- The next request of such a session has an answer. -/
theorem exists_answerNext {r : Request Slot} (total : r.IsTotal)
    (texts : ∀ s ∈ r.arguments, s.IsText earlier) :
    ∃ a, ns.answerNext earlier r = .pure (.ok a) := by
  obtain ⟨r', hr', htotal, harguments⟩ :=
    Request.exists_resolve fun s hs => (texts s hs).exists_argument
  obtain ⟨a, ha⟩ := ns.exists_answer (htotal.mpr total) harguments
  exact ⟨a, by rw [answerNext, hr', ← ha]⟩

/-- **A session that is fed with texts meets no refusal**: behind the earlier outcomes it has one
answer for every request. -/
theorem IsFed.exists_answers {rs : List (Request Slot)} (h : ns.IsFed earlier rs) :
    ∃ as : List Answer, as.length = rs.length ∧
      ns.session earlier rs = earlier ++ as.map fun a => .pure (.ok a) := by
  induction h with
  | nil earlier => exact ⟨[], rfl, (List.append_nil earlier).symm⟩
  | cons total texts rest ih =>
    obtain ⟨a, ha⟩ := exists_answerNext total texts
    obtain ⟨as, hlen, has⟩ := ih
    refine ⟨a :: as, by simp [hlen], ?_⟩
    rw [session, has, ha, List.append_assoc]
    rfl

/-! ## 3. All keys -/

/-- **A path is taken for what is written of it.** -/
theorem answer_pathToKey (ns : Namespace) {path : Argument} {p : Text}
    (h : plainText path = .ok p) :
    (ns.sep <+: p → ns.answer (.pathToKey path) = .pure (.ok (.text (p.drop 1)))) ∧
      (¬ ns.sep <+: p → ns.answer (.pathToKey path) = .pure (.error (.relativePath ⟨p⟩))) := by
  constructor
  · intro hp
    have hkey : ns.pathToKey p = .ok (p.drop 1) := by simp [pathToKey, hp]
    simp only [answer, answerKey, h, hkey, bind, Except.bind]
    rfl
  · intro hp
    have hkey : ns.pathToKey p = .error ⟨p⟩ := by simp [pathToKey, hp]
    simp only [answer, answerKey, h, hkey, bind, Except.bind]
    rfl

/-- **No key is malformed for a namespace.**  In the namespace of a layout every text is read as a
key, and an operation that is about neither a path nor a bucket has an answer for all texts.  So has
every session of such operations that is fed with texts and the answers before.  The key of a path
is refused, as a bad value, exactly when the path does not begin with the delimiter. -/
theorem answers_of_texts {t : Layout.Fields} {l : Layout} (hl : Layout.make t = .ok l) :
    (∀ text, Key.parse t.delimiter text = .ok (key ⟨l⟩ text)) ∧
    (∀ r : Request Argument, r.IsTotal → (∀ a ∈ r.arguments, a.IsText) →
      ∃ a, answer ⟨l⟩ r = .pure (.ok a)) ∧
    (∀ earlier rs, IsFed ⟨l⟩ earlier rs → ∃ as : List Answer, as.length = rs.length ∧
      session ⟨l⟩ earlier rs = earlier ++ as.map fun a => .pure (.ok a)) ∧
    ∀ p, (t.delimiter <+: p →
        answer ⟨l⟩ (.pathToKey (.text p)) = .pure (.ok (.text (p.drop 1)))) ∧
      (¬ t.delimiter <+: p → ∃ refusal, answer ⟨l⟩ (.pathToKey (.text p)) = .pure (.error refusal) ∧
        refusal.category = .badValue) := by
  obtain rfl := Layout.make_eq_ok_iff.mp hl
  refine ⟨parse_eq_ok ⟨l⟩, fun r => exists_answer ⟨l⟩, fun _ _ => IsFed.exists_answers, ?_⟩
  intro p
  obtain ⟨habsolute, hrelative⟩ := answer_pathToKey ⟨l⟩ (plainText_text p)
  exact ⟨habsolute, fun h => ⟨_, hrelative h, rfl⟩⟩

/-- A file put below a key that begins with redundant delimiters, its parent, and the child on the
way back. -/
def wayBack : List (Request Slot) :=
  [.append (.value (.atom (.text "//a".toList))) (.value (.atom (.text "b".toList))),
    .parent (.answerOf 0), .immediateChild (.answerOf 0) (.answerOf 1)]

theorem isFed_wayBack : standard.IsFed [] wayBack := by
  refine .cons trivial ?_ (.cons trivial ?_ (.cons trivial ?_ (.nil _)))
  · simp [Request.arguments, Slot.IsText.given]
  · simpa [Request.arguments] using Slot.IsText.answered rfl
  · simpa [Request.arguments] using ⟨Slot.IsText.answered rfl, Slot.IsText.answered rfl⟩

/-- The parent is `/a/`, which is no beginning of `//a/b`.  So there is no child on the way, but an
answer that says so. -/
theorem answers_of_texts_wayBack :
    Layout.make {} = .ok .standard ∧ standard.IsFed [] wayBack ∧
    ∃ as : List Answer, as.length = 3 ∧
      standard.session [] wayBack = as.map fun a => .pure (.ok a) := by
  obtain ⟨-, -, hsession, -⟩ := answers_of_texts Layout.make_default
  exact ⟨Layout.make_default, isFed_wayBack, hsession [] wayBack isFed_wayBack⟩

end Keyspace.Namespace
