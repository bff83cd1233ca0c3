import ObjectGateway.Proofs.Gateway.Reads

/-!
# Redirects of a gateway

A gateway redirects to another address only where the store has signed this address for it, whatever
it is asked and whatever the store replies: `SignsRedirects`, for reads, writes and removals.  To a
folder it redirects only reads, and only those of paths that do not name a folder: `read_folder`.
-/

namespace ObjectGateway

open Exchange (called told sent answered)

/-- Whoever is redirected to another address is redirected to one that the store has signed. -/
def Conversation.SignsRedirects (t : Conversation GatewayInterface) : Prop :=
  ∀ url, answered (.redirect url) ∈ t →
    ∃ key conditions span, called (.signedUrl key conditions span) (.ok url) ∈ t

open Conversation

theorem Conversation.SignsRedirects.append {t u : Conversation GatewayInterface}
    (ht : SignsRedirects t) (hu : SignsRedirects u) : SignsRedirects (t ++ u) := by
  intro url h
  rcases List.mem_append.1 h with h | h
  · obtain ⟨key, conditions, span, hcalled⟩ := ht url h
    exact ⟨key, conditions, span, List.mem_append_left u hcalled⟩
  · obtain ⟨key, conditions, span, hcalled⟩ := hu url h
    exact ⟨key, conditions, span, List.mem_append_right t hcalled⟩

namespace Gateway

variable {g : Gateway} {ctx : RequestContext} {mode : ReadMode} {key contentKey : String}
  {input : GetInput} {t : Conversation GatewayInterface} {a : Answer Unit}

theorem redirect_ne_failureOutcome (url : String) (f : Failure) :
    .redirect url ≠ failureOutcome f := by
  cases f <;> simp [failureOutcome]

theorem redirect_ne_readOutcome (url : String) (f : Failure) : .redirect url ≠ readOutcome f := by
  cases f <;> simp [readOutcome]

theorem redirect_ne_fileFailure (url path : String) (f : Failure) :
    .redirect url ≠ g.fileFailure path f := by
  unfold fileFailure
  split
  · simp
  · exact redirect_ne_readOutcome url f

theorem signsRedirects_answered {o : Outcome} (h : ∀ url, .redirect url ≠ o) :
    SignsRedirects [answered o] := by
  intro url hmem
  simp [h url] at hmem

theorem signsRedirects_failureOutcome (f : Failure) :
    SignsRedirects [answered (failureOutcome f)] :=
  signsRedirects_answered fun url => redirect_ne_failureOutcome url f

theorem signsRedirects_failureAnswer {outcome : Failure → Outcome}
    (h : ∀ url f, .redirect url ≠ outcome f) : SignsRedirects (failureAnswer outcome a) := by
  rcases a with f | ⟨⟨⟩⟩
  · exact signsRedirects_answered fun url => h url f
  · simp [SignsRedirects]

theorem streamFile_signsRedirects (h : (g.streamFile key input).Runs t a) : SignsRedirects t := by
  rcases streamFile_runs_iff.1 h with
    ⟨f, rfl, rfl⟩ | ⟨output, info, f, rfl, rfl⟩ | ⟨output, info, rfl, rfl⟩ <;>
  simp [SignsRedirects]

theorem redirectToSignedUrl_signsRedirects (h : (g.redirectToSignedUrl key input).Runs t a) :
    SignsRedirects t := by
  rw [redirectToSignedUrl_runs_iff] at h
  split at h
  · obtain ⟨rfl, rfl⟩ := h
    simp [SignsRedirects]
  · rcases h with ⟨f, rfl, rfl⟩ | ⟨url, rfl, rfl⟩
    · simp [SignsRedirects]
    · intro url' hmem
      obtain rfl : url' = url := by simpa using hmem
      exact ⟨key, input.conditions, _, List.mem_cons_self⟩

theorem FoundRun.signsRedirects {found : HeadOutput} {info : ResultInfo}
    (h : FoundRun g key contentKey input found info mode t a) : SignsRedirects t := by
  cases h with
  | described a => simp [SignsRedirects]
  | redirected _ h => exact redirectToSignedUrl_signsRedirects h
  | streamed _ h => exact streamFile_signsRedirects h

theorem signsRedirects_called (c : StoreCall) (reply : c.Reply) :
    SignsRedirects [called c reply] := by
  simp [SignsRedirects]

theorem FileRun.signsRedirects (h : FileRun g key input mode t a) : SignsRedirects t := by
  cases h with
  | unfound _ f => exact signsRedirects_called _ _
  | found _ h => exact (signsRedirects_called _ _).append h.signsRedirects
  | opened _ h => exact streamFile_signsRedirects h

theorem ListingRun.signsRedirects (h : ListingRun g ctx mode key input t) : SignsRedirects t := by
  cases h with
  | disabled _ => simp [SignsRedirects]
  | unlisted f => simp [SignsRedirects]
  | listed ds info => simp [SignsRedirects]

theorem FolderRun.signsRedirects (h : FolderRun g ctx mode key input t) : SignsRedirects t := by
  cases h with
  | listed _ h => exact h.signsRedirects
  | unindexed _ h => exact (signsRedirects_called _ _).append h.signsRedirects
  | unknown _ _ => simp [SignsRedirects]
  | indexed _ h =>
    exact (signsRedirects_called _ _).append <|
      h.signsRedirects.append (signsRedirects_failureAnswer redirect_ne_readOutcome)

theorem read_signsRedirects (h : (g.read ctx mode input).Runs t ()) : SignsRedirects t := by
  cases ReadRun.of_runs h with
  | unrewritten _ => exact signsRedirects_failureOutcome _
  | folder _ _ hfolder => exact hfolder.signsRedirects
  | file _ _ hfile =>
    exact hfile.signsRedirects.append <|
      signsRedirects_failureAnswer fun url f => redirect_ne_fileFailure url input.requestPath f

theorem write_signsRedirects {upload : PutInput} (h : (g.write ctx upload).Runs t ()) :
    SignsRedirects t := by
  have hcheck (key : String) : SignsRedirects (g.absenceCheck key) := by
    unfold absenceCheck
    split <;> simp [SignsRedirects]
  cases WriteRun.of_runs h with
  | unrewritten _ => exact signsRedirects_failureOutcome _
  | unrendered _ _ => exact signsRedirects_failureOutcome _
  | occupied _ _ _ => simp [SignsRedirects]
  | unknown _ _ _ _ =>
    exact (signsRedirects_called _ _).append (signsRedirects_failureOutcome _)
  | unstored _ _ =>
    exact (hcheck _).append <|
      (signsRedirects_called _ _).append (signsRedirects_failureOutcome _)
  | stored _ _ => exact (hcheck _).append (by simp [SignsRedirects])

theorem remove_signsRedirects {path : String} (h : (g.remove ctx path).Runs t ()) :
    SignsRedirects t := by
  cases remove_runs_iff.1 h with
  | unrewritten _ => exact signsRedirects_failureOutcome _
  | folder _ _ => simp [SignsRedirects]
  | unremoved _ _ =>
    exact (signsRedirects_called _ _).append (signsRedirects_failureOutcome _)
  | removed _ _ => simp [SignsRedirects]

/-! ## Redirects to folders -/

theorem folder_ne_failureOutcome (f : Failure) :
    .redirectWithTrailingSlash ≠ failureOutcome f := by
  cases f <;> simp [failureOutcome]

theorem folder_ne_readOutcome (f : Failure) : .redirectWithTrailingSlash ≠ readOutcome f := by
  cases f <;> simp [readOutcome]

theorem streamFile_no_folder (h : (g.streamFile key input).Runs t a) :
    answered .redirectWithTrailingSlash ∉ t := by
  rcases streamFile_runs_iff.1 h with
    ⟨f, rfl, rfl⟩ | ⟨output, info, f, rfl, rfl⟩ | ⟨output, info, rfl, rfl⟩ <;>
  simp

theorem FoundRun.no_folder {found : HeadOutput} {info : ResultInfo}
    (h : FoundRun g key contentKey input found info mode t a) :
    answered .redirectWithTrailingSlash ∉ t := by
  cases h with
  | described a => simp
  | redirected _ h =>
    rw [redirectToSignedUrl_runs_iff] at h
    split at h
    · obtain ⟨rfl, rfl⟩ := h
      simp
    · rcases h with ⟨f, rfl, rfl⟩ | ⟨url, rfl, rfl⟩ <;> simp
  | streamed _ h => exact streamFile_no_folder h

theorem ListingRun.no_folder (h : ListingRun g ctx mode key input t) :
    answered .redirectWithTrailingSlash ∉ t := by
  cases h <;> simp

/-- Whoever asks for a folder is not redirected to it. -/
theorem FolderRun.no_folder (h : FolderRun g ctx mode key input t) :
    answered .redirectWithTrailingSlash ∉ t := by
  cases h with
  | listed _ h => exact h.no_folder
  | unindexed _ h => simpa using h.no_folder
  | unknown _ _ => simp
  | @indexed _ _ _ _ a _ h =>
    rcases a with f | ⟨⟨⟩⟩
    · simpa [folder_ne_readOutcome] using h.no_folder
    · simpa using h.no_folder

theorem read_folder (h : (g.read ctx mode input).Runs t ())
    (hfolder : answered .redirectWithTrailingSlash ∈ t) :
    isFolderPath input.requestPath = false := by
  cases ReadRun.of_runs h with
  | unrewritten _ => simp [folder_ne_failureOutcome] at hfolder
  | folder _ _ hrun => exact absurd hfolder hrun.no_folder
  | file _ hpath _ => exact hpath

theorem write_no_folder {upload : PutInput} (h : (g.write ctx upload).Runs t ()) :
    answered .redirectWithTrailingSlash ∉ t := by
  have hcheck (key : String) : answered .redirectWithTrailingSlash ∉ g.absenceCheck key := by
    unfold absenceCheck
    split <;> simp
  cases WriteRun.of_runs h <;> simp [folder_ne_failureOutcome, hcheck]

theorem remove_no_folder {path : String} (h : (g.remove ctx path).Runs t ()) :
    answered .redirectWithTrailingSlash ∉ t := by
  cases remove_runs_iff.1 h <;> simp [folder_ne_failureOutcome]

end Gateway

end ObjectGateway
