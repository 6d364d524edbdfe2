import WorkWithMe.Lib.Json

/-!
# The catalog of connectors

`GET /api/connectors` answers with the catalog, which is a table in the program: every entry of it
becomes an object of the listing, and nothing else does.  `mcp.json`, where a connector that has
been added is stored, is not read.

* `mem_connectors` says what is listed: the objects of the catalog.
* `status_of_mem_connectors` says that each of them has the status `available`.
-/

set_option autoImplicit false

namespace WorkWithMe.Connectors

/-- `CatalogEntry`. -/
structure CatalogEntry where
  /-- The slug. -/
  slug : String
  /-- The name. -/
  name : String
  /-- The description. -/
  description : String
  /-- The category. -/
  category : String
  /-- The address of the server. -/
  url : String
  /-- `docs_url`. -/
  docsUrl : Option String
  /-- `requires_token`. -/
  requiresToken : Bool

/-- `get_catalog`. -/
def getCatalog : List CatalogEntry :=
  [⟨"atlassian", "Atlassian", "Connect Jira, Confluence, and other Atlassian tools",
      "Productivity", "https://mcp.atlassian.com/v1/mcp",
      some "https://developer.atlassian.com/cloud/mcp", true⟩,
    ⟨"notion", "Notion", "Access and manage your Notion workspace",
      "Productivity", "https://mcp.notion.com/v1",
      some "https://developers.notion.com/docs/mcp", true⟩,
    ⟨"linear", "Linear", "Manage Linear issues and projects",
      "Productivity", "https://mcp.linear.app/sse", some "https://linear.app/docs/mcp", true⟩,
    ⟨"zapier", "Zapier", "Automate workflows across thousands of apps",
      "Productivity", "https://mcp.zapier.com/v1", some "https://zapier.com/docs/mcp", true⟩,
    ⟨"asana", "Asana", "Manage tasks and projects in Asana",
      "Productivity", "https://mcp.asana.com/v1",
      some "https://developers.asana.com/docs/mcp", true⟩,
    ⟨"airtable", "Airtable", "Access and modify Airtable bases and records",
      "Productivity", "https://mcp.airtable.com/v1",
      some "https://airtable.com/developers/web/api/introduction", true⟩,
    ⟨"monday", "Monday.com", "Manage boards and items in Monday.com",
      "Productivity", "https://mcp.monday.com/v1",
      some "https://developer.monday.com/apps/docs/mcp", true⟩,
    ⟨"clickup", "ClickUp", "Manage tasks and docs in ClickUp",
      "Productivity", "https://mcp.clickup.com/v1",
      some "https://clickup.com/api/developer-portal/mcp", true⟩,
    ⟨"trello", "Trello", "Access boards, lists and cards in Trello",
      "Productivity", "https://mcp.trello.com/v1",
      some "https://developer.atlassian.com/cloud/trello/api", true⟩,
    ⟨"coda", "Coda", "Read and write Coda docs and tables",
      "Productivity", "https://mcp.coda.io/v1", some "https://coda.io/developers/apis/v1", true⟩,
    ⟨"google-drive", "Google Drive", "Access and manage files in Google Drive",
      "Google", "https://mcp.googleapis.com/drive/v1",
      some "https://developers.google.com/drive/api", true⟩,
    ⟨"gmail", "Gmail", "Read and send emails via Gmail",
      "Google", "https://mcp.googleapis.com/gmail/v1",
      some "https://developers.google.com/gmail/api/guides", true⟩,
    ⟨"google-calendar", "Google Calendar", "Manage events in Google Calendar",
      "Google", "https://mcp.googleapis.com/calendar/v1",
      some "https://developers.google.com/calendar/api", true⟩,
    ⟨"google-docs", "Google Docs", "Create and edit Google Docs",
      "Google", "https://mcp.googleapis.com/docs/v1",
      some "https://developers.google.com/docs/api", true⟩,
    ⟨"google-sheets", "Google Sheets", "Read and write Google Sheets spreadsheets",
      "Google", "https://mcp.googleapis.com/sheets/v1",
      some "https://developers.google.com/sheets/api", true⟩,
    ⟨"google-slides", "Google Slides", "Create and manage Google Slides presentations",
      "Google", "https://mcp.googleapis.com/slides/v1",
      some "https://developers.google.com/slides/api", true⟩,
    ⟨"youtube", "YouTube", "Access YouTube data and manage content",
      "Google", "https://mcp.googleapis.com/youtube/v1",
      some "https://developers.google.com/youtube/v3", true⟩,
    ⟨"github", "GitHub", "Manage repositories, issues, and pull requests",
      "Development", "https://mcp.github.com/v1", some "https://docs.github.com/en/rest", true⟩,
    ⟨"gitlab", "GitLab", "Access GitLab projects and CI/CD pipelines",
      "Development", "https://mcp.gitlab.com/v1", some "https://docs.gitlab.com/ee/api", true⟩,
    ⟨"bitbucket", "Bitbucket", "Manage Bitbucket repositories and pipelines",
      "Development", "https://mcp.bitbucket.com/v1",
      some "https://developer.atlassian.com/cloud/bitbucket/rest", true⟩,
    ⟨"vercel", "Vercel", "Deploy and manage projects on Vercel",
      "Development", "https://mcp.vercel.com/v1", some "https://vercel.com/docs/api", true⟩,
    ⟨"heroku", "Heroku", "Deploy and manage apps on Heroku",
      "Development", "https://mcp.heroku.com/v1",
      some "https://devcenter.heroku.com/articles/platform-api-reference", true⟩,
    ⟨"aws", "Amazon AWS", "Access and manage AWS resources",
      "Development", "https://mcp.aws.amazon.com/v1",
      some "https://docs.aws.amazon.com/sdk", true⟩,
    ⟨"azure", "Microsoft Azure", "Manage Azure resources and services",
      "Development", "https://mcp.azure.com/v1",
      some "https://learn.microsoft.com/en-us/azure", true⟩,
    ⟨"gcp", "Google Cloud Platform", "Access GCP resources and services",
      "Development", "https://mcp.googleapis.com/cloud/v1",
      some "https://cloud.google.com/docs", true⟩,
    ⟨"slack", "Slack", "Send messages and manage Slack workspaces",
      "Communication", "https://mcp.slack.com/v1", some "https://api.slack.com", true⟩,
    ⟨"discord", "Discord", "Manage Discord servers and send messages",
      "Communication", "https://mcp.discord.com/v1",
      some "https://discord.com/developers/docs", true⟩,
    ⟨"telegram", "Telegram", "Send messages via Telegram bot",
      "Communication", "https://mcp.telegram.org/v1",
      some "https://core.telegram.org/bots/api", true⟩,
    ⟨"twilio", "Twilio", "Send SMS and voice messages",
      "Communication", "https://mcp.twilio.com/v1", some "https://www.twilio.com/docs", true⟩,
    ⟨"sendgrid", "SendGrid", "Send emails with SendGrid",
      "Communication", "https://mcp.sendgrid.com/v1", some "https://docs.sendgrid.com", true⟩,
    ⟨"zoom", "Zoom", "Schedule meetings and manage Zoom integrations",
      "Communication", "https://mcp.zoom.us/v1", some "https://developers.zoom.us/docs", true⟩,
    ⟨"intercom", "Intercom", "Manage customer conversations and support",
      "Communication", "https://mcp.intercom.com/v1",
      some "https://developers.intercom.com/docs", true⟩,
    ⟨"zendesk", "Zendesk", "Manage support tickets and customer service",
      "Communication", "https://mcp.zendesk.com/v1",
      some "https://developer.zendesk.com/api", true⟩,
    ⟨"datadog", "Datadog", "Monitor and analyze metrics with Datadog",
      "Data & Analytics", "https://mcp.datadoghq.com/v1",
      some "https://docs.datadoghq.com/api", true⟩,
    ⟨"elastic", "Elastic", "Search and analyze data with Elastic",
      "Data & Analytics", "https://mcp.elastic.co/v1",
      some "https://www.elastic.co/guide/en/elasticsearch/reference", true⟩,
    ⟨"mixpanel", "Mixpanel", "Track and analyze user analytics",
      "Data & Analytics", "https://mcp.mixpanel.com/v1",
      some "https://developer.mixpanel.com", true⟩,
    ⟨"segment", "Segment", "Collect and manage customer data",
      "Data & Analytics", "https://mcp.segment.com/v1", some "https://segment.com/docs", true⟩,
    ⟨"tableau", "Tableau", "Create and share data visualizations",
      "Data & Analytics", "https://mcp.tableau.com/v1",
      some "https://help.tableau.com/current/api", true⟩,
    ⟨"stripe", "Stripe", "Process payments and manage subscriptions",
      "Finance", "https://mcp.stripe.com/v1", some "https://stripe.com/docs/api", true⟩,
    ⟨"square", "Square", "Manage payments and invoices",
      "Finance", "https://mcp.squareup.com/v1", some "https://developer.squareup.com/docs", true⟩,
    ⟨"quickbooks", "QuickBooks", "Manage accounting and invoices",
      "Finance", "https://mcp.quickbooks.intuit.com/v1",
      some "https://developer.intuit.com/app/developer/qbo/docs", true⟩,
    ⟨"figma", "Figma", "Access and manage Figma designs and files",
      "Design", "https://mcp.figma.com/v1", some "https://www.figma.com/developers/api", true⟩,
    ⟨"adobe-creative-cloud", "Adobe Creative Cloud", "Access Adobe Creative Cloud applications",
      "Design", "https://mcp.adobe.com/v1", some "https://developer.adobe.com/console", true⟩,
    ⟨"salesforce", "Salesforce", "Manage Salesforce CRM data and contacts",
      "CRM", "https://mcp.salesforce.com/v1", some "https://developer.salesforce.com/docs", true⟩,
    ⟨"hubspot", "HubSpot", "Manage HubSpot CRM, marketing, and sales",
      "CRM", "https://mcp.hubapi.com/v1", some "https://developers.hubspot.com/docs", true⟩,
    ⟨"supabase", "Supabase", "Access Supabase PostgreSQL databases and storage",
      "Backend", "https://mcp.supabase.com/v1", some "https://supabase.com/docs", true⟩,
    ⟨"firebase", "Firebase", "Access Firebase database and services",
      "Backend", "https://mcp.firebase.com/v1", some "https://firebase.google.com/docs", true⟩,
    ⟨"mongodb", "MongoDB", "Query and manage MongoDB databases",
      "Backend", "https://mcp.mongodb.com/v1", some "https://www.mongodb.com/docs", true⟩,
    ⟨"mailchimp", "Mailchimp", "Manage email campaigns and marketing lists",
      "Marketing", "https://mcp.mailchimp.com/v1", some "https://mailchimp.com/developer", true⟩,
    ⟨"twitch", "Twitch", "Access Twitch channels and stream data",
      "Streaming", "https://mcp.twitch.tv/v1", some "https://dev.twitch.tv/docs", true⟩]

/-- The id of a connector. -/
def connectorId (slug : String) : String := "remote-mcp/" ++ slug

/-- An entry of the catalog as an object of the listing. -/
def CatalogEntry.toConnector (entry : CatalogEntry) : Json :=
  .obj [("id", .str (connectorId entry.slug)), ("type", .str "remote-mcp"),
    ("slug", .str entry.slug), ("name", .str entry.name),
    ("description", .str entry.description), ("category", .str entry.category),
    ("status", .str "available"), ("requires_token", .bool entry.requiresToken),
    ("url", .str entry.url), ("docs_url", entry.docsUrl.elim .null .str)]

/-- The connectors that are listed. -/
def connectors : List Json := getCatalog.map CatalogEntry.toConnector

/-- `list`. -/
def list : Json := .obj [("success", .bool true), ("connectors", .arr connectors)]

theorem mem_connectors {v : Json} :
    v ∈ connectors ↔ ∃ entry ∈ getCatalog, entry.toConnector = v :=
  List.mem_map

/-- **Every connector that is listed is available.** -/
theorem status_of_mem_connectors {v : Json} (h : v ∈ connectors) :
    v.get "status" = some (.str "available") := by
  obtain ⟨entry, -, rfl⟩ := mem_connectors.mp h
  rfl

end WorkWithMe.Connectors
