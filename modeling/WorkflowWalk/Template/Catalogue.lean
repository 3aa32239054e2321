import WorkflowWalk.Template.Basic
import WorkflowWalk.Text.Order

/-!
# The catalogue of templates

The templates that there are, and how they are looked up by id.
-/

namespace WorkflowWalk
namespace Template

/-! ## The templates -/

def simpleLinear : Template where
  id := "simple-linear"
  name := "Simple Linear Workflow"
  description := "Basic workflow with sequential steps."
  workflow := workflowOf
    [level "level-start" "Collect Information" "Data Collection" ["APPLICANT_DATA"],
      level "level-verify" "Verify Identity" "Identity Verification" ["IDENTITY", "SELFIE"],
      action "action-approve" "Approve & Notify"
        [("approve", "Approve application", ""),
          ("sendEmail", "Send confirmation email", "user@example.com")]]
    [edge "level-start" "level-verify", edge "level-verify" "action-approve"]
  contexts := [[]]

def ageCheck : Template where
  id := "age-check"
  name := "Age Check"
  description := "If/else flow that approves adults and rejects minors."
  workflow := workflowOf
    [level "collect" "Collect Data" "Basic Information" ["APPLICANT_DATA"],
      condition "age-check" "Age Verification" [("Is Adult", "age >= 18")],
      action "approve" "Approve" [("approve", "Application Approved", "")],
      action "reject" "Reject" [("reject", "Rejected - Too Young", "")]]
    [edge "collect" "age-check", branchEdge "age-check" "approve" 0,
      otherwiseEdge "age-check" "reject"]
  contexts := [[("age", .int 25)], [("age", .int 15)]]

def countryKyc : Template where
  id := "country-kyc"
  name := "Country-based KYC"
  description :=
    "Routes applicants to a country-specific KYC level, with an international fallback."
  workflow := workflowOf
    [level "start" "Start KYC" "Initial" [],
      condition "country-check" "Country Verification"
        [("Singapore", "country equals Singapore"), ("USA", "country equals USA"),
          ("UK", "country equals UK")],
      level "sg-kyc" "Singapore KYC" "SG Process" ["IDENTITY", "SELFIE"],
      level "usa-kyc" "USA KYC" "US Process" ["IDENTITY", "SSN"],
      level "uk-kyc" "UK KYC" "UK Process" ["IDENTITY", "PROOF_OF_ADDRESS"],
      level "other-kyc" "International KYC" "Standard" ["IDENTITY"],
      action "final" "Complete" [("complete", "Done", "")]]
    [edge "start" "country-check", branchEdge "country-check" "sg-kyc" 0,
      branchEdge "country-check" "usa-kyc" 1, branchEdge "country-check" "uk-kyc" 2,
      otherwiseEdge "country-check" "other-kyc", edge "sg-kyc" "final", edge "usa-kyc" "final",
      edge "uk-kyc" "final", edge "other-kyc" "final"]
  contexts :=
    [[("country", .str "Singapore")], [("country", .str "usa")], [("country", .str "UK")],
      [("country", .str "France")]]

def riskAssessment : Template where
  id := "risk-assessment"
  name := "Risk Assessment"
  description := "Routes applicants through enhanced, standard or basic KYC by risk score."
  workflow := workflowOf
    [level "collect" "Collect Data" "Basic Information" ["APPLICANT_DATA"],
      condition "risk-check" "Risk Assessment"
        [("High Risk", "riskScore >= 70"), ("Medium Risk", "riskScore >= 30")],
      level "enhanced-kyc" "Enhanced KYC" "Enhanced Due Diligence"
        ["IDENTITY", "SELFIE", "PROOF_OF_ADDRESS"],
      level "standard-kyc" "Standard KYC" "Standard Verification" ["IDENTITY", "SELFIE"],
      level "basic-kyc" "Basic KYC" "Basic Verification" ["IDENTITY"],
      action "manual-review" "High Risk Actions"
        [("createCase", "Create manual review case", "Compliance Team"),
          ("sendEmail", "Alert compliance team", "compliance@company.com"),
          ("log", "Log risk event", "High risk user detected")],
      action "auto-approve" "Auto-Approve Actions"
        [("approve", "Auto-approve user", ""),
          ("sendWebhook", "Notify partner system", "https://api.partner.com/webhook"),
          ("sendEmail", "Welcome email", "user@example.com"),
          ("notify", "Push notification", "Account approved!")]]
    [edge "collect" "risk-check", branchEdge "risk-check" "enhanced-kyc" 0,
      branchEdge "risk-check" "standard-kyc" 1, otherwiseEdge "risk-check" "basic-kyc",
      edge "enhanced-kyc" "manual-review", edge "standard-kyc" "auto-approve",
      edge "basic-kyc" "auto-approve"]
  contexts := [[("riskScore", .int 85)], [("riskScore", .int 50)], [("riskScore", .int 10)]]

def multiBranch : Template where
  id := "multi-branch"
  name := "Multi-Branch Workflow"
  description := "Two decision points: document type, then upload quality."
  workflow := workflowOf
    [levelOf "Companies" "level-collect" "Collect Documents" "Document Collection"
        ["COMPANY_DATA", "DOCUMENTS"],
      condition "condition-doctype" "Document Type Check"
        [("Passport", "docType equals PASSPORT"), ("ID Card", "docType equals ID_CARD")],
      condition "condition-quality" "Quality Check" [("Good Quality", "qualityScore >= 80")],
      action "action-approve" "Approve" [("approve", "Approve verification", "")],
      action "action-retry" "Retry Upload"
        [("sendEmail", "Request re-upload", "Please re-upload clearer documents")],
      action "action-reject" "Reject"
        [("sendEmail", "Send rejection notice", "Your application was rejected")]]
    [edge "level-collect" "condition-doctype",
      branchEdge "condition-doctype" "condition-quality" 0,
      branchEdge "condition-doctype" "condition-quality" 1,
      branchEdge "condition-quality" "action-approve" 0,
      otherwiseEdge "condition-quality" "action-retry",
      otherwiseEdge "condition-doctype" "action-reject"]
  contexts :=
    [[("docType", .str "PASSPORT"), ("qualityScore", .int 92)],
      [("docType", .str "ID_CARD"), ("qualityScore", .int 40)],
      [("docType", .str "DRIVING_LICENSE")]]

/-! ## Look-up -/

def catalogue : List Template :=
  [simpleLinear, ageCheck, countryKyc, riskAssessment, multiBranch]

def find? (id : String) : Option Template :=
  catalogue.find? (·.id = id)

def knownIds : List String :=
  Text.sorted (catalogue.map (·.id))

def unknownText (id : String) : String :=
  "Unknown template '" ++ id ++ "'. Available: " ++ String.intercalate ", " knownIds ++ "."

end Template
end WorkflowWalk
