import TrackedComments.Json.Fields
import TrackedComments.Json.Reader
import TrackedComments.Tracker.Basic
import TrackedComments.Tracker.Draft
import TrackedComments.Tracker.HttpStatus
import TrackedComments.Tracker.References
import TrackedComments.Tracker.Transport

/-!
# GitHub

The tracker of a repository on GitHub. Issues are created by a request with a token; the addresses
of lines need the owner and the name of the repository alone.
-/

namespace TrackedComments

/-- What has to be known about a repository on GitHub. -/
structure GitHubSettings where
  owner : Option String
  repo : Option String
  token : Option String
  /-- The address that requests are sent to. -/
  apiUrl : String
  deriving DecidableEq, Repr, Inhabited

namespace GitHubSettings

/-- The address that requests are sent to unless another one is configured. -/
def defaultApiUrl : String := "https://api.github.com"

/-- Whether a setting is missing. Blanks alone are nothing. -/
def isMissing (value : Option String) : Bool :=
  value.all isBlank

/-- The names of the settings that are missing. -/
def missing (s : GitHubSettings) : List String :=
  ([("github.owner", s.owner), ("github.repo", s.repo), ("token", s.token)].filter fun p =>
    isMissing p.2).map Prod.fst

/-- The owner and the name of the repository. -/
def repository (s : GitHubSettings) : Except TrackerError (String × String) :=
  match s.owner, s.repo with
  | some owner, some repo =>
    if isBlank owner || isBlank repo then .error (.notConfigured (s.missing.filter (· != "token")))
    else .ok (owner, repo)
  | _, _ => .error (.notConfigured (s.missing.filter (· != "token")))

/-- The address of a line of a file at a reference. -/
def blobUrl (s : GitHubSettings) (reference file : String) (line : UInt32) :
    Except TrackerError String :=
  s.repository.map fun (owner, repo) =>
    "https://github.com/" ++ owner ++ "/" ++ repo ++ "/blob/" ++ reference ++ "/" ++ file ++ "#L" ++
      toString line.toNat

/-- The address that creates issues of a repository. -/
def issuesUrl (s : GitHubSettings) (owner repo : String) : String :=
  let base := String.ofList (s.apiUrl.toList.reverse.dropWhile (· == '/')).reverse
  base ++ "/repos/" ++ owner ++ "/" ++ repo ++ "/issues"

end GitHubSettings

namespace IssueDraft

/-- The draft as a JSON object. -/
def toJson (d : IssueDraft) : Json :=
  .ofFields [("title", .ofString d.title), ("body", .ofString d.body),
    ("labels", .array (d.labels.map .ofString))]

end IssueDraft

namespace IssueInfo

/-- The issue with the given fields. -/
def ofValues? (number url htmlUrl : Json) : Option IssueInfo := do
  let number ← number.natBelow? UInt64.size
  let url ← url.text?
  let htmlUrl ← htmlUrl.text?
  some { number := .ofNat number, url, htmlUrl }

/-- The issue that an answer describes, by an object or by an array of its fields. -/
def ofJson? : Json → Option IssueInfo
  | .object members =>
    if Json.hasTextNames members then do
      let number ← Json.requiredField "number" members
      let url ← Json.requiredField "url" members
      let htmlUrl ← Json.requiredField "html_url" members
      ofValues? number url htmlUrl
    else none
  | .array [number, url, htmlUrl] => ofValues? number url htmlUrl
  | _ => none

end IssueInfo

/-- A tracker of a repository on GitHub, with a transport of a type. -/
structure GitHubTracker (σ : Type) where
  settings : GitHubSettings
  references : References
  transport : σ

namespace GitHubTracker

/-- Whether a character may stand in the value of a field of a request. -/
def isHeaderChar (c : Char) : Bool :=
  c == '\t' || (0x20 ≤ c.toNat && c.toNat != 0x7f)

/-- The schemes of web servers. -/
def webSchemes : List (List Char) := ["http".toList, "https".toList]

/-- The request that creates an issue. -/
def requestFor (url token : String) (draft : IssueDraft) : Except RequestFault HttpRequest :=
  match Url.ofChars? url.toList with
  | none => .error .malformed
  | some url =>
    if !url.hasHost then .error (.unsupported url)
    else if !token.toList.all isHeaderChar then .error .malformed
    else if !webSchemes.contains url.scheme then .error (.unsupported url)
    else
      .ok
        { url
          headers :=
            [("Authorization", "Bearer " ++ token), ("Accept", "application/vnd.github+json"),
              ("User-Agent", "comment-to-issue/0.1.0"), ("Content-Type", "application/json")]
          body := draft.toJson }

/-- The text of an answer, without a byte order mark. -/
def textOf (r : HttpResponse) : String :=
  match Utf8.decode r.body.toList with
  | '\ufeff' :: rest => String.ofList rest
  | text => String.ofList text

/-- The issue that an answer tells of. -/
def readResponse (r : HttpResponse) : Except TrackerError IssueInfo :=
  if HttpStatus.isSuccess r.status then
    let created : Option IssueInfo := do
      let text ← String.fromUTF8? r.body
      let value ← Json.ofChars? text.toList
      IssueInfo.ofJson? value
    match created with
    | some info => .ok info
    | none => .error (.remote "Failed to parse issue response: error decoding response body")
  else .error (HttpStatus.classify r.status (textOf r))

/-- The failure of a tracker whose request brought no answer. -/
def sendFailure (fault : RequestFault) : TrackerError :=
  .remote ("Failed to send issue request: " ++ fault.message)

/-- Creates an issue for a comment. -/
def create {σ : Type} [Transport σ] (t : GitHubTracker σ) (comment : CommentRecord) :
    Except TrackerError IssueInfo × GitHubTracker σ :=
  if t.settings.missing.isEmpty then
    match t.settings.repository with
    | .error e => (.error e, t)
    | .ok (owner, repo) =>
      let url := t.settings.issuesUrl owner repo
      match requestFor url (t.settings.token.getD "") (.ofComment comment) with
      | .error fault => (.error (sendFailure fault), t)
      | .ok request =>
        match Transport.send t.transport request with
        | (none, transport) =>
          (.error (sendFailure (.unreachable request.url)), { t with transport })
        | (some response, transport) => (readResponse response, { t with transport })
  else (.error (.notConfigured t.settings.missing), t)

end GitHubTracker

instance {σ : Type} [Transport σ] : IssueTracker (GitHubTracker σ) where
  missingSettings t := t.settings.missing
  createIssue t tree comment :=
    let (result, t) := t.create comment
    (result, t, tree)
  remoteUrl t file line := t.settings.blobUrl t.references.branchName file line
  permalink t file line := t.settings.blobUrl t.references.commitName file line

end TrackedComments
