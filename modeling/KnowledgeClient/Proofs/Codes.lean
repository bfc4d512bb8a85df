import KnowledgeClient.Proofs.Bodies
import KnowledgeClient.Proofs.Shuffling
import KnowledgeClient.Proofs.Trimming

/-!
# The codes of language models

A text names the model whose code is left when the white space at its two ends is dropped.
Listed models have codes of their own, and a custom model that a text names never has one of
these.  So the code of such a model names it again, wherever the code is written down.
-/

namespace KnowledgeClient

open Text

namespace LanguageModel

/-- The model is none of those with listed codes. -/
def IsCustom (model : LanguageModel) : Prop :=
  ∃ code, model = .custom code

/-- The model is a custom one, and yet a listed one has its code. -/
def HidesListed (model : LanguageModel) : Prop :=
  model.IsCustom ∧ ∃ listed : LanguageModel, ¬ listed.IsCustom ∧ listed.code = model.code

variable {model other : LanguageModel}

theorem mem_listed_iff (model : LanguageModel) : model ∈ listed ↔ ¬ model.IsCustom := by
  cases model <;> simp [listed, IsCustom]

theorem eq_of_listed_code :
    ∀ first ∈ listed, ∀ second ∈ listed, first.code = second.code → first = second := by
  decide +kernel

theorem trim_listed_code : ∀ model ∈ listed, trim model.code = model.code := by
  decide +kernel

/-- Models with one code are the same, unless a custom one hides a listed one. -/
theorem eq_of_code_eq
    (shown : ¬ model.HidesListed)
    (otherShown : ¬ other.HidesListed)
    (sameCode : model.code = other.code) :
    model = other := by
  by_cases isCustom : model.IsCustom <;> by_cases isOtherCustom : other.IsCustom
  · obtain ⟨code, rfl⟩ := isCustom
    obtain ⟨otherCode, rfl⟩ := isOtherCustom
    exact congrArg custom sameCode
  · exact absurd ⟨isCustom, other, isOtherCustom, sameCode.symm⟩ shown
  · exact absurd ⟨isOtherCustom, model, isCustom, sameCode⟩ otherShown
  · exact eq_of_listed_code _ ((mem_listed_iff _).mpr isCustom) _
      ((mem_listed_iff _).mpr isOtherCustom) sameCode

/-! ## The model of a text -/

/-- A text names the model that has the trimmed text for its code and hides no listed one. -/
theorem ofCode_eq_iff
    (raw : String)
    (model : LanguageModel) :
    ofCode raw = model ↔ model.code = trim raw ∧ ¬ model.HidesListed := by
  have named : (ofCode raw).code = trim raw ∧ ¬ (ofCode raw).HidesListed := by
    have isNamed : ofCode raw =
        (listed.find? (·.code == trim raw)).getD (.custom (trim raw)) := rfl
    rw [isNamed]
    cases found : listed.find? (·.code == trim raw) with
    | some model =>
        have isListed := (mem_listed_iff model).mp (List.mem_of_find?_eq_some found)
        have isCode := List.find?_some found
        exact ⟨beq_iff_eq.mp isCode, fun hides => isListed hides.1⟩
    | none =>
        refine ⟨rfl, ?_⟩
        rintro ⟨_, other, isListed, isCode⟩
        have differs := List.find?_eq_none.mp found other ((mem_listed_iff other).mpr isListed)
        exact differs (beq_iff_eq.mpr isCode)
  constructor
  · rintro rfl
    exact named
  · rintro ⟨isCode, shown⟩
    exact eq_of_code_eq named.2 shown (named.1.trans isCode.symm)

theorem code_ofCode (raw : String) : (ofCode raw).code = trim raw :=
  ((ofCode_eq_iff raw _).mp rfl).1

/-- Texts name one model exactly if they are the same once trimmed. -/
theorem ofCode_eq_ofCode_iff (raw otherRaw : String) :
    ofCode raw = ofCode otherRaw ↔ trim raw = trim otherRaw := by
  rw [ofCode_eq_iff, code_ofCode]
  have shown := ((ofCode_eq_iff otherRaw _).mp rfl).2
  exact ⟨fun named => named.1.symm, fun same => ⟨same.symm, shown⟩⟩

/-- The code of a model that a text names, names that model. -/
theorem ofCode_code_ofCode (raw : String) : ofCode (ofCode raw).code = ofCode raw := by
  rw [ofCode_eq_ofCode_iff, code_ofCode, trim_trim]

theorem ofCode_code_eq_iff (model : LanguageModel) :
    ofCode model.code = model ↔ Trims model.code model.code ∧ ¬ model.HidesListed := by
  rw [ofCode_eq_iff, trims_iff, eq_comm]

end LanguageModel

/-! ## Codes that are sent -/

/-- The text of a request has the code of its model. -/
theorem ChatRequest.member?_model (request : ChatRequest) :
    request.value.member? "model" = some (.text request.model.code) := by
  simp [ChatRequest.value, Json.Value.member?, List.lookup_cons]

namespace LanguageModel

open Json

/-- What texts, models and codes have to do with each other. -/
structure CodeLaw : Prop where
  /-- The code of the model that a text names is the text without the white space at its ends. -/
  trims : ∀ raw : String, Trims raw (ofCode raw).code
  /-- No other model has the code of a custom model that a text names. -/
  unlisted : ∀ (raw code : String), ofCode raw = .custom code →
    ∀ model : LanguageModel, model.code = code → model = .custom code
  /-- Two texts name one model exactly if they are the same without the white space at their
  ends. -/
  same : ∀ raw other : String,
    ofCode raw = ofCode other ↔ ∃ core, Trims raw core ∧ Trims other core
  /-- The code of a model names it, unless it is a custom one whose code has white space at its
  ends or belongs to a listed one. -/
  fixed : ∀ model : LanguageModel, ofCode model.code = model ↔
    ¬ ∃ code, model = .custom code ∧
      (¬ Trims code code ∨ ∃ listed : LanguageModel, (∀ other, listed ≠ .custom other) ∧
        listed.code = code)
  /-- The code of a model that a text names, names that model again. -/
  again : ∀ raw : String, ofCode (ofCode raw).code = ofCode raw
  /-- The JSON string of a model that a text names has a meaning that names that model. -/
  written : ∀ raw text : String, Quotes (ofCode raw).jsonChars text ↔ text = (ofCode raw).code
  /-- Chats about models that texts name are the same text only if the models are the same. -/
  told : ∀ (request other : ChatRequest) (raw otherRaw : String),
    request.model = ofCode raw → other.model = ofCode otherRaw →
    request.jsonChars = other.jsonChars → ofCode raw = ofCode otherRaw
  /-- A query of a model that a text names sends, if nothing hinders it, an object whose member
  for the model names that model. -/
  sent : ∀ (raw content : String) (options : ChatOptions) (situation : Situation),
    options.model = ofCode raw →
    ∃ text value code,
      situation.world.Posts text (Client.queryHindrance? situation)
        (Client.query content options situation).1
        (Client.query content options situation).2.world ∧
      Value.read text = .ok value ∧ value.member? "model" = some (.text code) ∧
      ofCode code = ofCode raw

/-- A code names the model that was named, and one model only. -/
theorem codeLaw : CodeLaw where
  trims raw := (trims_iff _ _).mpr (code_ofCode raw).symm
  unlisted raw code named model isCode := by
    obtain ⟨_, shown⟩ := (ofCode_eq_iff raw _).mp named
    by_cases isCustom : model.IsCustom
    · obtain ⟨other, rfl⟩ := isCustom
      exact congrArg custom isCode
    · exact absurd ⟨⟨code, rfl⟩, model, isCustom, isCode⟩ shown
  same raw other := by
    simp only [ofCode_eq_ofCode_iff, trims_iff]
    exact ⟨fun same => ⟨_, same, rfl⟩, fun ⟨_, first, second⟩ => first.trans second.symm⟩
  fixed model := by
    rw [ofCode_code_eq_iff]
    by_cases isCustom : model.IsCustom
    · obtain ⟨code, rfl⟩ := isCustom
      simp [HidesListed, IsCustom, LanguageModel.code]
    · have isListed := (mem_listed_iff model).mpr isCustom
      have isTrimmed := (trims_iff _ _).mpr (trim_listed_code model isListed)
      refine iff_of_true ⟨isTrimmed, fun hides => isCustom hides.1⟩ ?_
      rintro ⟨code, isCode, _⟩
      exact isCustom ⟨code, isCode⟩
  again := ofCode_code_ofCode
  written raw text := by
    have quotes := quotes_stringChars (ofCode raw).code
    exact ⟨fun means => means.eq quotes, fun isCode => isCode ▸ quotes⟩
  told request other raw otherRaw named otherNamed sameChars := by
    have reads := request.tells.reads
    rw [sameChars, other.tells.reads, Except.ok.injEq] at reads
    have sameMember := congrArg (Value.member? "model") reads
    rw [ChatRequest.member?_model, ChatRequest.member?_model, Option.some.injEq,
      Value.text.injEq] at sameMember
    rw [← ofCode_code_ofCode raw, ← ofCode_code_ofCode otherRaw, ← named, ← otherNamed, sameMember]
  sent raw content options situation named := by
    refine ⟨_, _, _, Client.query_posts content options situation,
      (Client.chatRequest content options).tells.reads, ChatRequest.member?_model _, ?_⟩
    have isModel : (Client.chatRequest content options).model = ofCode raw := named
    rw [isModel, ofCode_code_ofCode]

/-- A listed code with white space around it, a code that is not listed, and a custom model with
a listed code. -/
theorem codeLaw_sample :
    ofCode "\u00a0o3-mini\n" = .o3Mini ∧
      ofCode "\u00a0o3-mini\n" = ofCode "o3-mini" ∧
      ofCode " o3 mini\t" = .custom "o3 mini" ∧
      (∀ model : LanguageModel, model.code = "o3 mini" → model = .custom "o3 mini") ∧
      ofCode (custom "o3-mini").code ≠ .custom "o3-mini" := by
  have listed : ofCode "\u00a0o3-mini\n" = .o3Mini := by decide +kernel
  have custom : ofCode " o3 mini\t" = .custom "o3 mini" := by decide +kernel
  have trims : ∀ raw, trim raw = "o3-mini" → Trims raw "o3-mini" := fun raw =>
    (trims_iff raw _).mpr
  refine ⟨listed, (codeLaw.same _ _).mpr ⟨"o3-mini", trims _ (by decide +kernel),
    trims _ (by decide +kernel)⟩, custom, codeLaw.unlisted _ _ custom, fun kept => ?_⟩
  refine (codeLaw.fixed _).mp kept ⟨"o3-mini", rfl, .inr ⟨.o3Mini, by simp, rfl⟩⟩

end LanguageModel
end KnowledgeClient
