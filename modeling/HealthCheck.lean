import HealthCheck.Placeholder.Conditional
import HealthCheck.Input.Parameters
import HealthCheck.Validation.CrossRef
import HealthCheck.Validation.Roles
import HealthCheck.Validation.Triggers
import HealthCheck.Handler
import HealthCheck.Validation.Checks
import HealthCheck.Report.Csv
