import NextApp.Theorems.FilterScreen
import NextApp.Theorems.FormMode
import NextApp.Theorems.CreateFrom
import NextApp.Theorems.PageViewForm
import NextApp.Theorems.PageLoad
import NextApp.Theorems.PageStatus
import NextApp.Theorems.JournalEntry
import NextApp.Theorems.Pagination
import NextApp.Theorems.Routes
import NextApp.Theorems.Connection
import NextApp.Theorems.ListQuery
import NextApp.Theorems.Login
import NextApp.Theorems.PaginationRace
import NextApp.Theorems.ItemsCubit
import NextApp.Theorems.ItemsEnd
import NextApp.Theorems.ReportQuery
import NextApp.Theorems.ReportPaging
import NextApp.Theorems.ReportBloc
import NextApp.Theorems.ItemTable
import NextApp.Theorems.ReturnSign
import NextApp.Theorems.SourceForm
import NextApp.Theorems.ModuleForm
import NextApp.Theorems.RowForm
import NextApp.Theorems.ExpenseClaim
import NextApp.Theorems.DefaultTax
import NextApp.Theorems.ChildRows
import NextApp.Theorems.AmendForm
import NextApp.Theorems.EditForm
import NextApp.Theorems.AmendedPage
import NextApp.Theorems.AccountPicker
import NextApp.Theorems.PaymentForm
import NextApp.Theorems.AccountTotals
import NextApp.Theorems.TimeLog
import NextApp.Theorems.ContactForm
import NextApp.Theorems.CheckinForm
import NextApp.Theorems.LeaveApplication
import NextApp.Theorems.NumericField
import NextApp.Theorems.SubmitDocument
import NextApp.Theorems.LinkField
import NextApp.Theorems.ListRequest
import NextApp.Theorems.ModuleList
import NextApp.Theorems.NewListWidget
import NextApp.Theorems.ChildCodec
import NextApp.Theorems.PickerField
import NextApp.Theorems.Description
import NextApp.Theorems.ServerRequest
import NextApp.Theorems.PageCard
import NextApp.Theorems.WorkflowForm
import NextApp.Theorems.FilterDates
import NextApp.Theorems.StoredLogin
import NextApp.Theorems.CustomerPick
import NextApp.Theorems.ProfileEdit
import NextApp.Theorems.WorkflowPanel
import NextApp.Theorems.ListRows
import NextApp.Theorems.PageOverlays
import NextApp.Theorems.Dashboard
import NextApp.Theorems.ItemPicker
import NextApp.Theorems.ItemFields
